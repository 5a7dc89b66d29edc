import Ff5m.Text.Lines

/-!
# Basic regular expressions without groups

A pattern is a sequence of characters and dots, each of which may be repeated with `*`.
It has to match a whole text.

* `bre` reads the pattern from its text;
* `matchAll` decides a match, and `matchAll_prefix_iff` says what a word with `.*` behind
  it matches.
-/

namespace TextTools

/-- What one character of a text is compared with. -/
inductive Atom where
  | char (c : Char)
  | any
  deriving DecidableEq

/-- The atom accepts the character. -/
def Atom.accepts : Atom → Char → Bool
  | .char d, c => c == d
  | .any, _ => true

/-- An atom, once or repeated. -/
structure Piece where
  atom : Atom
  star : Bool
  deriving DecidableEq

/-- The atoms and stars of a pattern; a backslash makes the next character ordinary. -/
def breTokens : Text → List (Option Atom)
  | [] => []
  | '\\' :: c :: cs => some (.char c) :: breTokens cs
  | '.' :: cs => some .any :: breTokens cs
  | '*' :: cs => none :: breTokens cs
  | c :: cs => some (.char c) :: breTokens cs

/-- A star belongs to the atom in front of it; without one it is a character. -/
def attachStars : List (Option Atom) → List Piece
  | [] => []
  | some a :: none :: ts => ⟨a, true⟩ :: attachStars ts
  | some a :: ts => ⟨a, false⟩ :: attachStars ts
  | none :: ts => ⟨.char '*', false⟩ :: attachStars ts

/-- The pattern that a text describes. -/
def bre (s : String) : List Piece := attachStars (breTokens s.toList)

/-- Does the pattern match the whole text? -/
def matchAll : List Piece → Text → Bool
  | [], t => t.isEmpty
  | ⟨a, false⟩ :: ps, t =>
    match t with
    | [] => false
    | c :: cs => a.accepts c && matchAll ps cs
  | ⟨a, true⟩ :: ps, t =>
    (List.range (t.length + 1)).any fun n => (t.take n).all a.accepts && matchAll ps (t.drop n)

/-- The pattern of a word. -/
def literal (w : Text) : List Piece := w.map fun c => ⟨.char c, false⟩

theorem matchAll_literal_append {w : Text} {ps : List Piece} {t : Text} :
    matchAll (literal w ++ ps) t = true ↔ ∃ v, t = w ++ v ∧ matchAll ps v = true := by
  induction w generalizing t with
  | nil => simp [literal]
  | cons c cs ih =>
    cases t with
    | nil => simp [literal, matchAll]
    | cons d ds =>
      simp only [literal, List.map_cons, List.cons_append, matchAll, Atom.accepts, Bool.and_eq_true,
        beq_iff_eq, List.cons.injEq]
      rw [← literal, ih]
      constructor
      · rintro ⟨rfl, v, rfl, hv⟩
        exact ⟨v, ⟨rfl, rfl⟩, hv⟩
      · rintro ⟨v, ⟨rfl, rfl⟩, hv⟩
        exact ⟨rfl, v, rfl, hv⟩

theorem matchAll_any_star (t : Text) : matchAll [⟨.any, true⟩] t = true := by
  rw [matchAll, List.any_eq_true]
  exact ⟨t.length, by simp, by simp [Atom.accepts, matchAll]⟩

/-- A word with `.*` behind it matches the texts that begin with the word. -/
theorem matchAll_prefix_iff {w t : Text} :
    matchAll (literal w ++ [⟨.any, true⟩]) t = true ↔ w <+: t := by
  rw [matchAll_literal_append]
  constructor
  · rintro ⟨v, rfl, -⟩
    exact List.prefix_append w v
  · rintro ⟨v, rfl⟩
    exact ⟨v, rfl, matchAll_any_star v⟩

end TextTools
