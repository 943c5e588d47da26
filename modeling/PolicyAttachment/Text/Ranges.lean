namespace PolicyAttachment.Text

/-- Whether a number is in the set that the ascending list of its boundaries describes: every
boundary takes the numbers from there on in or out again. -/
def within (boundaries : Array Nat) (n : Nat) : Bool :=
  boundaries.countP (· ≤ n) % 2 = 1

end PolicyAttachment.Text
