import Mathlib.Data.String.Basic

/-! Lower case: of ASCII alone, and of all of Unicode as `str::to_lowercase` computes it. -/

def asciiLowercase (s : String) : String := String.ofList (s.toList.map Char.toLower)

def IsAscii (s : String) : Prop := ∀ c ∈ s.toList, c.toNat < 128

structure UnicodeTables where
  toLower : Char → List Char
  caseIgnorable : Char → Bool
  cased : Char → Bool

namespace UnicodeTables

variable (tables : UnicodeTables)

def lowerChar (c : Char) : List Char := if c.toNat < 128 then [c.toLower] else tables.toLower c

def caseIgnorableThenCased (chars : List Char) : Bool :=
  match (chars.dropWhile tables.caseIgnorable).head? with
  | some c => tables.cased c
  | none => false

/-- Σ becomes σ, but ς at the end of a word. `before` is nearest first. -/
def mapUppercaseSigma (before after : List Char) : Char :=
  if tables.caseIgnorableThenCased before && !tables.caseIgnorableThenCased after then 'ς' else 'σ'

def lowerChars (before : List Char) : List Char → List Char
  | [] => []
  | c :: after =>
    (if c = 'Σ' then [tables.mapUppercaseSigma before after] else tables.lowerChar c) ++
      lowerChars (c :: before) after

def toLowercase (s : String) : String := String.ofList (tables.lowerChars [] s.toList)

variable {tables}

theorem lowerChars_ascii (before : List Char) {chars : List Char}
    (h : ∀ c ∈ chars, c.toNat < 128) : tables.lowerChars before chars = chars.map Char.toLower := by
  induction chars generalizing before with
  | nil => rfl
  | cons c chars ih =>
    have hc : c.toNat < 128 := h c List.mem_cons_self
    have hsigma : c ≠ 'Σ' := by
      rintro rfl
      exact absurd hc (by decide)
    rw [lowerChars, if_neg hsigma, lowerChar, if_pos hc, List.map_cons,
      ih (c :: before) fun c' hc' => h c' (List.mem_cons_of_mem c hc')]
    rfl

theorem toLowercase_ascii {s : String} (h : IsAscii s) :
    tables.toLowercase s = asciiLowercase s := by
  rw [toLowercase, lowerChars_ascii [] h]
  rfl

end UnicodeTables
