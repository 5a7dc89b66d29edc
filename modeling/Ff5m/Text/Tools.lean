import Ff5m.Text.Pattern

/-!
# Shell text tools

The few uses of `awk`, `tr`, `grep`, `sed` and command substitution that work
on a whole text rather than on one line.
-/

namespace TextTools

/-- `$( … )`: the output without its trailing newlines. -/
def cmdSubst (t : Text) : Text := (t.reverse.dropWhile (· = '\n')).reverse

/-- `tr -d`: delete the listed characters. -/
def trDelete (cs : List Char) (t : Text) : Text := t.filter (· ∉ cs)

/-- A blank, as `awk` separates fields by default. -/
def isBlank (c : Char) : Bool := c == ' ' || c == '\t'

/-- `awk '{print $1}'`: the first blank-separated field of every line. -/
def awkFirst (t : Text) : Text :=
  unlines ((lines t).map fun l => (l.dropWhile isBlank).takeWhile (!isBlank ·))

/-- The second field of a line whose fields are separated by `sep` (`$2` of
`awk -F`), empty when there is none. -/
def field2 (sep : Char) (l : Line) : Text := (l.dropWhile (· ≠ sep)).tail.takeWhile (· ≠ sep)

/-- `grep -v '^p'` on a text: the other lines, each with a newline. -/
def grepNotStart (p : Pat) (t : Text) : Text := unlines ((lines t).filter (!matchAt p ·))

/-- `grep -q p`: some line has the pattern in it. -/
def grepQ (p : Pat) (t : Text) : Bool := (lines t).any (occurs p)

/-- A `sed -i` script that maps every line; a missing final newline stays
missing. -/
def sedLines (f : Line → Line) (t : Text) : Text :=
  if Terminated t then unlines ((lines t).map f) else (unlines ((lines t).map f)).dropLast

theorem dropWhile_reverse_newline {t : Text} (h : '\n' ∉ t) :
    t.reverse.dropWhile (· = '\n') = t.reverse := by
  cases hr : t.reverse with
  | nil => rfl
  | cons c cs =>
    have hm : c ∈ t := List.mem_reverse.1 (by rw [hr]; simp)
    rw [List.dropWhile_cons_of_neg]
    simpa using fun hc : c = '\n' => h (hc ▸ hm)

theorem cmdSubst_append_newline {t : Text} (h : '\n' ∉ t) : cmdSubst (t ++ ['\n']) = t := by
  rw [cmdSubst, List.reverse_append, List.reverse_singleton, List.singleton_append,
    List.dropWhile_cons_of_pos (by simp), dropWhile_reverse_newline h, List.reverse_reverse]

theorem cmdSubst_of_no_newline {t : Text} (h : '\n' ∉ t) : cmdSubst t = t := by
  rw [cmdSubst, dropWhile_reverse_newline h, List.reverse_reverse]

theorem trDelete_append (cs : List Char) (s t : Text) :
    trDelete cs (s ++ t) = trDelete cs s ++ trDelete cs t :=
  List.filter_append s t

theorem trDelete_eq_self {cs : List Char} {t : Text} (h : ∀ c ∈ t, c ∉ cs) :
    trDelete cs t = t :=
  List.filter_eq_self.2 fun c hc => by simpa using h c hc

theorem trDelete_eq_nil_iff {cs : List Char} {t : Text} :
    trDelete cs t = [] ↔ ∀ c ∈ t, c ∈ cs := by
  rw [trDelete, List.filter_eq_nil_iff]
  simp

end TextTools
