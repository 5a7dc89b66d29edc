import Ff5m.Text.Tools

/-!
# Signing a G-code file and checking the signature

`addMD5.sh` puts a first line `; MD5:<sum>` in front of a file, and
`checkMD5.sh` compares that sum with the one of the file without such lines.
The two scripts compute the sum along different pipelines: `addMD5.sh` hashes
the raw file, `checkMD5.sh` hashes what `grep -v` re-emits of it, and reads the
expected sum with an `awk` pattern that is not anchored at the line start.

`md5sum` itself is a parameter, `Md5sum`: an injective function whose values
look like digests.  The real digests all have one length; of that, what an
injective function can keep is that no digest is a proper prefix of another.
-/

namespace Md5

open TextTools

/-- The characters of a printed digest. -/
def isHexDigit (c : Char) : Bool := ('0' ≤ c && c ≤ '9') || ('a' ≤ c && c ≤ 'f')

/-- `md5sum`, as a function from contents to printed digests. -/
structure Md5sum where
  /-- The digest of a content, in hexadecimal. -/
  hex : Text → Text
  hex_digit : ∀ t, ∀ c ∈ hex t, isHexDigit c = true
  hex_ne_nil : ∀ t, hex t ≠ []
  hex_injective : Function.Injective hex
  hex_prefixFree : ∀ s t, hex s <+: hex t → hex s = hex t

/-- A file name that is one word of the shell and that `md5sum` prints as it is. -/
structure FileName where
  text : Text
  ne_nil : text ≠ []
  plain : ∀ c ∈ text, c ≠ '\n' ∧ c ≠ '\\' ∧ c ≠ ' '

namespace Md5sum

/-- The output of `md5sum FILE`. -/
def ofFile (md : Md5sum) (name : FileName) (content : Text) : Text :=
  md.hex content ++ "  ".toList ++ name.text ++ ['\n']

/-- The output of `md5sum` on its standard input. -/
def ofStdin (md : Md5sum) (content : Text) : Text := md.hex content ++ "  -\n".toList

end Md5sum

/-! ## addMD5.sh -/

/-- `addMD5.sh`: the file with its sum in a new first line. -/
def addMD5 (md : Md5sum) (name : FileName) (f : Text) : Text :=
  let md5 := cmdSubst (awkFirst (md.ofFile name f))
  let payload := "; MD5:".toList ++ md5
  payload ++ '\n' :: f

/-! ## checkMD5.sh -/

/-- `send_klipper`: write the verdict into the `check_md5` line of `variables.cfg`. -/
def sendKlipper (verdict : Nat) (vars : Text) : Text :=
  sedLines (fun l => if matchAt (lit "check_md5") l
    then "check_md5 = ".toList ++ (Nat.repr verdict).toList else l) vars

/-- `ORIG_MD5`: the sum the file claims to have, collected from every line with
`; MD5` in it. -/
def origMd5 (content : Text) : Text :=
  cmdSubst (trDelete [' ', '\r']
    ((lines content).flatMap fun l => if occurs (lit "; MD5") l then field2 ':' l else []))

/-- `LOCAL_MD5`: the sum of what `grep -v '^; MD5:'` leaves of the file. -/
def localMd5 (md : Md5sum) (content : Text) : Text :=
  cmdSubst (trDelete [' ', '-'] (md.ofStdin (grepNotStart (lit "; MD5:") content)))

/-- What a run of `checkMD5.sh` leaves behind. -/
structure CheckResult where
  /-- The number given to `send_klipper`. -/
  verdict : Nat
  /-- The exit status. -/
  exitCode : Nat
  /-- The checked file, when it still exists. -/
  file : Option Text
  /-- `variables.cfg`. -/
  vars : Text

/-- `checkMD5.sh FILE DELETE`, where `file` is what is found at that name. -/
def checkMD5 (md : Md5sum) (name deleteFile : Text) (file : Option Text) (vars : Text) :
    CheckResult :=
  if name = [] then ⟨1, 1, file, sendKlipper 1 vars⟩
  else
    match file with
    | none => ⟨2, 2, none, sendKlipper 2 vars⟩
    | some content =>
      let orig := origMd5 content
      if orig = [] then ⟨3, 3, file, sendKlipper 3 vars⟩
      else if localMd5 md content = orig then
        if grepQ (lit "swap = 0") vars then ⟨5, 0, file, sendKlipper 5 vars⟩
        else if grepQ (lit "G2 ") content || grepQ (lit "G3 ") content then
          ⟨4, 0, file, sendKlipper 4 vars⟩
        else if grepQ (lit "G17 ") content || grepQ (lit "G18 ") content
            || grepQ (lit "G19 ") content then ⟨8, 0, file, sendKlipper 8 vars⟩
        else ⟨5, 0, file, sendKlipper 5 vars⟩
      else if deleteFile = "true".toList ∨ deleteFile = "True".toList then
        ⟨6, 0, none, sendKlipper 6 vars⟩
      else ⟨7, 0, file, sendKlipper 7 vars⟩

/-- The verdicts that let a print go on when the file has a sum: the sums agree
(5), or they agree and the file uses arcs (4) or plane selection (8). -/
def sumVerdicts : List Nat := [4, 5, 8]

theorem checkMD5_verdict_of_eq {md : Md5sum} {name deleteFile content vars : Text}
    (hn : name ≠ []) (ho : origMd5 content ≠ []) (h : localMd5 md content = origMd5 content) :
    (checkMD5 md name deleteFile (some content) vars).verdict ∈ sumVerdicts ∧
      (checkMD5 md name deleteFile (some content) vars).file = some content := by
  simp only [checkMD5, if_neg hn, if_neg ho, if_pos h]
  split_ifs <;> simp [sumVerdicts]

theorem checkMD5_delete_of_ne {md : Md5sum} {name content vars : Text}
    (hn : name ≠ []) (ho : origMd5 content ≠ []) (h : localMd5 md content ≠ origMd5 content) :
    (checkMD5 md name "true".toList (some content) vars).verdict = 6 ∧
      (checkMD5 md name "true".toList (some content) vars).file = none := by
  simp only [checkMD5, if_neg hn, if_neg ho, if_neg h, true_or, if_true, and_self]

end Md5
