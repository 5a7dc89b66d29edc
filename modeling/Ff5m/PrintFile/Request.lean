import Ff5m.PrintFile.HandOver
import Ff5m.Text.Json
import Ff5m.Text.Utf8

/-!
# The print request

`zprint.sh` writes a JSON body with the shell's own quoting and cuts the serial number
and the check code out of another JSON text with line tools; `zsend.py` sends the file
name in a line of bytes.

* `printBody_of_plain`: for plain values the body is the text of the right object with an
  apostrophe behind it;
* `not_object_printBody`: so it is never the text of an object;
* `zsendBytes_pair`: what `zsend.py` sends for a file that is heated;
* `not_rightFile`: the two requests are never both right.
-/

namespace HandOver

open TextTools (Text Line str lit lines unlines occurs field2 awkFirst sedLines cmdSubst)
open Json Utf8

/-! ## The requests -/

/-- `grep` -/
def grepLines (p : String) (t : Text) : Text := unlines ((lines t).filter (occurs (lit p)))

/-- `cut -d ":" -f2`; a line without a colon is kept. -/
def cutColon2 (t : Text) : Text :=
  unlines ((lines t).map fun l => if ':' ∈ l then field2 ':' l else l)

/-- The value of a member of `Adventurer5M.json`, as the script cuts it out. -/
def configValue (key : String) (config : Text) : Text :=
  cmdSubst (sedLines (fun l => l.filter fun c => c ≠ '"' ∧ c ≠ ',')
    (awkFirst (cutColon2 (grepLines key config))))

/-- The body between the shell's quotes. -/
def bodyText (serialNumber checkCode file : Text) : Text :=
  str "\x7b\"serialNumber\":\"" ++ serialNumber ++ str "\",\"checkCode\":\"" ++ checkCode ++
    str "\",\"fileName\":\"" ++ file ++ str "\",\"levelingBeforePrint\":true\x7d'"

/-- The body that `zprint.sh PRINT` posts for a file. -/
def printBody (config file : Text) : Text :=
  bodyText (configValue "printerSerialNumber" config) (configValue "lanCode" config) file

/-- What `zprint.sh` posts, if anything: the body for the file that it asks for. -/
def zprintBody (file : Text → Option Text) (config : Text) (args : List Text) : Option Text :=
  (zprint file args).posted.map (printBody config)

/-- What `zsend.py` sends. -/
def zsendPy : List Text → Option (List UInt8)
  | [command] => some (encode (str "~" ++ command ++ str "\r\n"))
  | [_, f] => some (encode (str "~M23 0:/user/" ++ f ++ str "\r\n"))
  | _ => none

/-- What `zsend.sh` has sent: with two arguments `M23` and the file that it asks for. -/
def zsendBytes (file : Text → Option Text) : List Text → Option (List UInt8)
  | [command] => zsendPy [command]
  | args => (zsend file args).posted.bind fun f => zsendPy [str "M23", f]

/-! ## Both requests -/

/-- A string member of the object that the text is. -/
def HasMember (t : Text) (key : String) (value : Text) : Prop :=
  ∃ ms, IsDocument t (.object ms) ∧ (key.toList, Value.string value) ∈ ms

/-- Both requests name the file, and the first one has the credentials of the printer. -/
structure RightFile (file : Text → Option Text) (config f : Text) : Prop where
  posted : ∃ body, zprintBody file config [str "PRINT", f] = some body ∧ HasMember body "fileName" f ∧
    (∀ serial, HasMember config "printerSerialNumber" serial → HasMember body "serialNumber" serial) ∧
    ∀ code, HasMember config "lanCode" code → HasMember body "checkCode" code
  sent : ∀ bytes, zsendBytes file [str "M23", f] = some bytes →
    bytes = encode (str "~M23 0:/user/") ++ encode f ++ encode (str "\r\n")

/-- The bytes for a file are right whenever they are sent. -/
theorem zsendBytes_pair {file : Text → Option Text} {f : Text} {bytes : List UInt8}
    (h : zsendBytes file [str "M23", f] = some bytes) :
    bytes = encode (str "~M23 0:/user/") ++ encode f ++ encode (str "\r\n") := by
  obtain ⟨g, hg, hbytes⟩ := Option.bind_eq_some_iff.1 h
  obtain ⟨a, has, -⟩ := zsend_posted.1 hg
  obtain rfl : f = g := (List.cons.inj (List.cons.inj has).2).1
  rw [← encode_append, ← encode_append]
  exact (Option.some.inj hbytes).symm

/-- The apostrophe at the end of the body. -/
theorem bodyText_eq (serialNumber checkCode file : Text) :
    ∃ object, bodyText serialNumber checkCode file = object ++ ['\''] ∧
      object = str "\x7b\"serialNumber\":\"" ++ serialNumber ++ str "\",\"checkCode\":\"" ++ checkCode ++
        str "\",\"fileName\":\"" ++ file ++ str "\",\"levelingBeforePrint\":true\x7d" :=
  ⟨_, by simp [bodyText, str], rfl⟩

/-- Without it, the body for plain values is the text of the right object. -/
theorem printBody_of_plain {config f : Text}
    (hserial : Plain (configValue "printerSerialNumber" config))
    (hcode : Plain (configValue "lanCode" config)) (hf : Plain f) :
    ∃ object, printBody config f = object ++ ['\''] ∧
      IsDocument object (.object
        [(str "serialNumber", .string (configValue "printerSerialNumber" config)),
          (str "checkCode", .string (configValue "lanCode" config)), (str "fileName", .string f),
          (str "levelingBeforePrint", .bool true)]) := by
  obtain ⟨object, hobject, rfl⟩ :=
    bodyText_eq (configValue "printerSerialNumber" config) (configValue "lanCode" config) f
  have hleveling := members_one (by simp [Plain, str] : Plain (str "levelingBeforePrint")) .true
  have hfile := members_cons (by simp [Plain, str] : Plain (str "fileName")) (.string (chars_of_plain hf)) hleveling
  have hcheck := members_cons (by simp [Plain, str] : Plain (str "checkCode")) (.string (chars_of_plain hcode)) hfile
  have hmembers :=
    members_cons (by simp [Plain, str] : Plain (str "serialNumber")) (.string (chars_of_plain hserial)) hcheck
  exact ⟨_, hobject, [], _, [], by simp [str], ws_nil, .object hmembers, ws_nil⟩

/-- The body is never the text of an object. -/
theorem not_object_printBody (config f : Text) (ms : List (Text × Value)) :
    ¬ IsDocument (printBody config f) (.object ms) := by
  obtain ⟨object, hobject, -⟩ :=
    bodyText_eq (configValue "printerSerialNumber" config) (configValue "lanCode" config) f
  rw [printBody, hobject]
  exact not_document_of_last (by decide) (by simp [Ws]) ms

/-- The two requests are never both right. -/
theorem not_rightFile (file : Text → Option Text) (config f : Text) : ¬ RightFile file config f := by
  intro h
  obtain ⟨body, hbody, ⟨ms, hdoc, -⟩, -⟩ := h.posted
  obtain ⟨g, -, rfl⟩ := Option.map_eq_some_iff.1 hbody
  exact not_object_printBody config g ms hdoc

/-! ## A request -/

/-- The configuration of a printer. -/
def someConfig : Text :=
  str "\x7b\n  \"lanCode\": \"1a2b3c4d\",\n  \"printerSerialNumber\": \"SN123\"\n\x7d\n"

/-- The request for a file whose name has no special characters is not right. -/
theorem gcode_not_rightFile :
    zprintBody (fun _ => some []) someConfig [str "PRINT", str "a.gcode"] =
        some (bodyText (str "SN123") (str "1a2b3c4d") (str "a.gcode")) ∧
      ¬ RightFile (fun _ => some []) someConfig (str "a.gcode") := by
  constructor
  · decide +kernel
  · intro h
    obtain ⟨body, hbody, ⟨ms, hdoc, -⟩, -⟩ := h.posted
    obtain ⟨g, -, rfl⟩ := Option.map_eq_some_iff.1 hbody
    exact not_object_printBody someConfig g ms hdoc

end HandOver
