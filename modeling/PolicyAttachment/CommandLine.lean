import PolicyAttachment.Invocation
import PolicyAttachment.LogFilter
import PolicyAttachment.Selector

/-!
The arguments of a run. An option is written `--name value`, `--name=value`, or with its letter
`-n value`, `-nvalue` or `-n=value`. All but the files may be given once; what is not given is taken
from the environment, if the option has a variable.
-/

namespace PolicyAttachment

inductive Setting where
  | files
  | output
  | resource
  | defaultNamespace
  | policyLabel
  | namespaceAncestors
  | logLevel
  | logFormat
deriving DecidableEq, Repr

namespace Setting

def all : List Setting :=
  [files, output, resource, defaultNamespace, policyLabel, namespaceAncestors, logLevel, logFormat]

def name : Setting → String
  | files => "manifests"
  | output => "output"
  | resource => "resource"
  | defaultNamespace => "default-namespace"
  | policyLabel => "policy-label"
  | namespaceAncestors => "namespace-ancestors"
  | logLevel => "log-level"
  | logFormat => "log-format"

def letter? : Setting → Option Char
  | files => some 'f'
  | output => some 'o'
  | _ => none

def environmentName? : Setting → Option String
  | defaultNamespace => some "GATEWAY_POLICY_RESOLVER_DEFAULT_NAMESPACE"
  | policyLabel => some "GATEWAY_POLICY_RESOLVER_POLICY_LABEL"
  | namespaceAncestors => some "GATEWAY_POLICY_RESOLVER_NAMESPACE_ANCESTORS"
  | logLevel => some "GATEWAY_POLICY_RESOLVER_LOG"
  | _ => none

def isSwitch (s : Setting) : Bool := s = namespaceAncestors

def isRepeated (s : Setting) : Bool := s = files

end Setting

def OutputFormat.parse? (s : String) : Option OutputFormat :=
  if s = "json" then some .json else if s = "yaml" then some .yaml else none

def Setting.accepts (s : Setting) (value : String) : Bool :=
  match s with
  | .files => value ≠ ""
  | .output => (OutputFormat.parse? value).isSome
  | .resource => (Selector.parse? value).isSome
  | .defaultNamespace | .policyLabel => true
  | .namespaceAncestors => value = "true" || value = "false"
  | .logLevel => LogFilter.isFilter value
  | .logFormat => value = "plain" || value = "json"

abbrev Settings := List (Setting × String)

namespace Settings

def values (g : Settings) (s : Setting) : List String :=
  (g.filter fun e => e.1 = s).map (·.2)

def value? (g : Settings) (s : Setting) : Option String := (g.values s).head?

def add? (g : Settings) (s : Setting) (values : List String) : Option Settings :=
  if values.isEmpty ∨ (!s.isRepeated ∧ (g.value? s).isSome) ∨ !values.all s.accepts then none
  else some (g ++ values.map fun v => (s, v))

def fill? (env : List (String × String)) (g : Settings) (s : Setting) : Option Settings :=
  match g.value? s, s.environmentName?.bind (env.lookup ·) with
  | none, some v => g.add? s [v]
  | _, _ => some g

end Settings

inductive Argument where
  | setting (s : Setting) (attached : Option String)
  | endOfOptions
  | value (v : String)
  | unknown
deriving DecidableEq, Repr

namespace Argument

def splitValue (s : List Char) : String × Option String :=
  match Selector.cut '=' s with
  | some (name, v) => (String.ofList name, some (String.ofList v))
  | none => (String.ofList s, none)

def ofLong (s : List Char) : Argument :=
  let (name, attached) := splitValue s
  match Setting.all.find? fun s => s.name = name with
  | some s => if s.isSwitch ∧ attached.isSome then unknown else setting s attached
  | none => unknown

def ofShort (letter : Char) (rest : List Char) : Argument :=
  match Setting.all.find? fun s => s.letter? = some letter, rest with
  | none, _ => unknown
  | some s, [] => setting s none
  | some s, '=' :: v => setting s (some (String.ofList v))
  | some s, v => setting s (some (String.ofList v))

def ofText (s : String) : Argument :=
  match s.toList with
  | ['-', '-'] => endOfOptions
  | '-' :: '-' :: r => ofLong r
  | '-' :: c :: r => ofShort c r
  | _ => value s

def value? : Argument → Option String
  | value v => some v
  | _ => none

end Argument

def leadingValues : List Argument → List String × List Argument
  | .value v :: as => ((v :: (leadingValues as).1), (leadingValues as).2)
  | as => ([], as)

theorem length_leadingValues_le (as : List Argument) :
    (leadingValues as).2.length ≤ as.length := by
  fun_induction leadingValues as with
  | case1 v as ih => simp only [List.length_cons]; omega
  | case2 as => exact Nat.le_refl _

def Settings.read? (g : Settings) (as : List Argument) : Option Settings :=
  match as with
  | [] => some g
  | .setting s attached :: as =>
    if s.isSwitch then
      match g.add? s ["true"] with
      | some g => g.read? as
      | none => none
    else
      match attached with
      | some v =>
        match g.add? s [v] with
        | some g => g.read? as
        | none => none
      | none =>
        if s.isRepeated then
          have := length_leadingValues_le as
          match g.add? s (leadingValues as).1 with
          | some g => g.read? (leadingValues as).2
          | none => none
        else
          match as with
          | .value v :: as =>
            match g.add? s [v] with
            | some g => g.read? as
            | none => none
          | _ => none
  | .endOfOptions :: as => if as.isEmpty then some g else none
  | .value _ :: _ | .unknown :: _ => none
termination_by as.length

def Settings.invocation? (g : Settings) : Option Invocation :=
  let base : Config := {}
  if (g.values .files).isEmpty then none
  else some
    { files := g.values .files
      format := ((g.value? .output).bind OutputFormat.parse?).getD .yaml
      resource := (g.value? .resource).bind Selector.parse?
      config :=
        { defaultNamespace := (g.value? .defaultNamespace).getD base.defaultNamespace
          policyLabelKey := (g.value? .policyLabel).getD base.policyLabelKey
          namespaceAncestors := g.value? .namespaceAncestors = some "true" } }

def Invocation.parse? (env : List (String × String)) (args : List String) : Option Invocation := do
  let g ← Settings.read? [] (args.map Argument.ofText)
  (← Setting.all.foldlM (Settings.fill? env) g).invocation?

end PolicyAttachment
