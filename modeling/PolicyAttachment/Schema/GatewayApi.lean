import PolicyAttachment.Schema.Kubernetes

namespace PolicyAttachment.Schema

def struct (name : String) (fields : List (String × Presence × Schema)) : Schema :=
  .record ("struct " ++ name) true fields

def must (name : String) (s : Schema) : String × Presence × Schema := (name, .required, s)

def may (name : String) (s : Schema) : String × Presence × Schema := (name, .nullable, s)

def conditions : String × Presence × Schema := may "conditions" (.list .any)

def resource (name : String) (spec status : Schema) : Schema :=
  struct name [must "metadata" objectMeta, must "spec" spec, ("status", .nullableInOrder, status)]

def gatewayClassSpec : Schema :=
  struct "GatewayClassSpec" [
    must "controllerName" .text,
    may "description" .text,
    may "parametersRef" (struct "GatewayClassParametersRef" [must "group" .text, must "kind" .text,
      must "name" .text, may "namespace" .text])]

def gatewayClass : Schema :=
  resource "GatewayClass" gatewayClassSpec (struct "GatewayClassStatus" [conditions])

def routeNamespaces : Schema :=
  struct "GatewayListenersAllowedRoutesNamespaces" [
    may "from" (.choice ["All", "Selector", "Same"]),
    may "selector" (struct "GatewayListenersAllowedRoutesNamespacesSelector" [
      may "matchExpressions" (.list
        (struct "GatewayListenersAllowedRoutesNamespacesSelectorMatchExpressions" [
          must "key" .text, must "operator" .text, may "values" (.list .text)])),
      may "matchLabels" (.dictionary .text)])]

def listener : Schema :=
  struct "GatewayListeners" [
    may "allowedRoutes" (struct "GatewayListenersAllowedRoutes" [
      may "kinds" (.list (struct "GatewayListenersAllowedRoutesKinds" [
        may "group" .text, must "kind" .text])),
      may "namespaces" routeNamespaces]),
    may "hostname" .text,
    must "name" .text,
    must "port" .int32,
    must "protocol" .text,
    may "tls" (struct "GatewayListenersTls" [
      may "certificateRefs" (.list (struct "GatewayListenersTlsCertificateRefs" [
        may "group" .text, may "kind" .text, must "name" .text, may "namespace" .text])),
      may "mode" (.choice ["Terminate", "Passthrough"]),
      may "options" (.dictionary .text)])]

def gatewaySpec : Schema :=
  struct "GatewaySpec" [
    may "addresses" (.list (struct "GatewayAddresses" [may "type" .text, must "value" .text])),
    must "gatewayClassName" .text,
    may "infrastructure" (struct "GatewayInfrastructure" [
      may "annotations" (.dictionary .text),
      may "labels" (.dictionary .text),
      may "parametersRef" (struct "GatewayInfrastructureParametersRef" [must "group" .text,
        must "kind" .text, must "name" .text])]),
    must "listeners" (.list listener)]

def gatewayStatus : Schema :=
  struct "GatewayStatus" [
    may "addresses" (.list (struct "GatewayStatusAddresses" [may "type" .text,
      must "value" .text])),
    conditions,
    may "listeners" (.list (struct "GatewayStatusListeners" [
      must "attachedRoutes" .int32,
      must "conditions" (.list .any),
      must "name" .text,
      must "supportedKinds" (.list (struct "GatewayStatusListenersSupportedKinds" [
        may "group" .text, must "kind" .text]))]))]

def gateway : Schema := resource "Gateway" gatewaySpec gatewayStatus

def pathModifier (name : String) : Schema :=
  struct name [may "replaceFullPath" .text, may "replacePrefixMatch" .text,
    must "type" (.choice ["ReplaceFullPath", "ReplacePrefixMatch"])]

def headerModifier (name : String) : Schema :=
  let entry (s : String) := struct (name ++ s) [must "name" .text, must "value" .text]
  struct name [may "add" (.list (entry "Add")), may "remove" (.list .text),
    may "set" (.list (entry "Set"))]

def filter (name : String) : Schema :=
  struct name [
    may "extensionRef" (struct (name ++ "ExtensionRef") [must "group" .text, must "kind" .text,
      must "name" .text]),
    may "requestHeaderModifier" (headerModifier (name ++ "RequestHeaderModifier")),
    may "requestMirror" (struct (name ++ "RequestMirror") [
      must "backendRef" (struct (name ++ "RequestMirrorBackendRef") [may "group" .text,
        may "kind" .text, must "name" .text, may "namespace" .text, may "port" .int32])]),
    may "requestRedirect" (struct (name ++ "RequestRedirect") [
      may "hostname" .text,
      may "path" (pathModifier (name ++ "RequestRedirectPath")),
      may "port" .int32,
      may "scheme" (.choice ["http", "https"]),
      may "statusCode" .int64]),
    may "responseHeaderModifier" (headerModifier (name ++ "ResponseHeaderModifier")),
    must "type" (.choice ["RequestHeaderModifier", "ResponseHeaderModifier", "RequestMirror",
      "RequestRedirect", "URLRewrite", "ExtensionRef"]),
    may "urlRewrite" (struct (name ++ "UrlRewrite") [
      may "hostname" .text,
      may "path" (pathModifier (name ++ "UrlRewritePath"))])]

def routeMatch : Schema :=
  struct "HTTPRouteRulesMatches" [
    may "headers" (.list (struct "HTTPRouteRulesMatchesHeaders" [
      must "name" .text,
      may "type" (.choice ["Exact", "RegularExpression"]),
      must "value" .text])),
    may "method" (.choice ["GET", "HEAD", "POST", "PUT", "DELETE", "CONNECT", "OPTIONS", "TRACE",
      "PATCH"]),
    may "path" (struct "HTTPRouteRulesMatchesPath" [
      may "type" (.choice ["Exact", "PathPrefix", "RegularExpression"]),
      may "value" .text]),
    may "queryParams" (.list (struct "HTTPRouteRulesMatchesQueryParams" [
      must "name" .text,
      may "type" (.choice ["Exact", "RegularExpression"]),
      must "value" .text]))]

def routeRule : Schema :=
  struct "HTTPRouteRules" [
    may "backendRefs" (.list (struct "HTTPRouteRulesBackendRefs" [
      may "filters" (.list (filter "HTTPRouteRulesBackendRefsFilters")),
      may "group" .text,
      may "kind" .text,
      must "name" .text,
      may "namespace" .text,
      may "port" .int32,
      may "weight" .int32])),
    may "filters" (.list (filter "HTTPRouteRulesFilters")),
    may "matches" (.list routeMatch),
    may "timeouts" (struct "HTTPRouteRulesTimeouts" [may "backendRequest" .text,
      may "request" .text])]

def parentRef (name : String) : Schema :=
  struct name [may "group" .text, may "kind" .text, must "name" .text, may "namespace" .text,
    may "port" .int32, may "sectionName" .text]

def routeSpec : Schema :=
  struct "HTTPRouteSpec" [
    may "hostnames" (.list .text),
    may "parentRefs" (.list (parentRef "HTTPRouteParentRefs")),
    may "rules" (.list routeRule)]

def routeStatus : Schema :=
  struct "HTTPRouteStatus" [
    must "parents" (.list (struct "HTTPRouteStatusParents" [
      conditions,
      must "controllerName" .text,
      must "parentRef" (parentRef "HTTPRouteStatusParentsParentRef")]))]

def httpRoute : Schema := resource "HTTPRoute" routeSpec routeStatus

end PolicyAttachment.Schema
