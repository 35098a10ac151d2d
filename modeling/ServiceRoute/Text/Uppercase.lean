import ServiceRoute.Text.CaseTable

/-! # Upper-casing

Street names arrive in any script and any mixture of cases. `upper` writes every
character in its full upper-case form, which may be longer than the character:
`ß` becomes `SS`.
-/

namespace ServiceRoute.Text

/-- The full upper-case form of one character. -/
def capitals (c : Char) : List Char :=
  match capitalSequences.lookup c.toNat with
  | some codes => codes.map Char.ofNat
  | none =>
    match capitalRuns.find? (·.holds c.toNat) with
    | some run => [Char.ofNat (c.toNat + run.shift).toNat]
    | none => [c]

def upper (s : String) : String :=
  String.ofList (s.toList.flatMap capitals)

end ServiceRoute.Text
