import Ff5m.GCode.Params
import Ff5m.GCode.Script

/-!
# Printing a file in screen mode

`start_print` of Moonraker hands the file name to the macro
`LEVELING_PRINT_FILE` or `NOLEVELING_PRINT_FILE` of `mod.cfg`, which passes it on
to `_PRINT_FILE`, and that to `CHECK_MD5` of `base.cfg` and to the shell scripts.
At each step the name is substituted into the text of a command line, and the
line is parsed again.  The macros are kept with the texts of their lines.

What they rest on is a `Host`: the stored variables, the file list that `M23`
looks into, the configured shell commands and what running one of them does.
-/

namespace PrintFile

open TextTools (Text str)
open GCode

/-! ## The host -/

/-- A started shell command: its configured name, and the arguments that are
appended to its command line. -/
structure Call where
  command : Text
  args : List Text
  deriving DecidableEq

/-- The shell commands that the macros name. -/
def shellCommands : List Text :=
  [str "check_md5", str "zexclude", str "zpreclear", str "zprint", str "zsend"]

/-- What the macros use of Klipper; `σ` is its state. -/
structure Host (σ : Type) where
  upper : Upper
  /-- `printer.save_variables.variables.NAME | default(d) | int` -/
  savedInt : σ → Text → ℤ → ℤ
  /-- `printer.virtual_sdcard.file_path` as a text: `None` if no file is loaded -/
  filePath : σ → Text
  /-- the names of the `gcode_shell_command` sections -/
  isCommand : Text → Bool
  isCommand_shellCommands : ∀ c ∈ shellCommands, isCommand c = true
  /-- `none` is "Unable to open file" -/
  m23 : Text → σ → Option σ
  m23_savedInt : ∀ {arg s s'}, m23 arg s = some s' → savedInt s' = savedInt s
  saveVariable : Text → Text → σ → σ × Option Failure
  zloadVariable : σ → σ × Option Failure
  /-- start the process and wait until it ends or its time is up -/
  shell : Call → σ → σ
  dwell : ℕ → σ → σ
  cancelPrint : σ → σ × Option Failure

/-- The native commands of the macros; those that parse a line keep it. -/
inductive Cmd where
  | respond (raw : Text)
  | m23 (arg : Text)
  | excludeObjectDefineReset
  | saveVariable (name value : Text)
  | runShellCommand (raw : Text)
  | zloadVariable
  | dwell (ms : ℕ)
  | zcontrolOn
  | cancelPrint
  | raiseError (msg : String)
  | malformed (raw : Text)

section Host

variable {σ : Type} (h : Host σ)

/-- The values of `TYPE` that `RESPOND` knows. -/
def respondTypes : List Text :=
  [str "echo", str "command", str "error", str "echo_no_space"]

/-- `cmd_RESPOND` accepts the line. -/
def respondOk (raw : Text) : Bool :=
  match extendedParams h.upper raw with
  | none => false
  | some ps =>
    match getParam ps (str "TYPE") with
    | none => true
    | some t => t.map Char.toLower ∈ respondTypes

/-- `RUN_SHELL_COMMAND`, up to the start of the process: the mux on `CMD`, and
`shlex.split` of `PARAMS`, whose `ValueError` nobody catches. -/
def shellCall (raw : Text) : Except Failure Call :=
  match extendedParams h.upper raw with
  | none => .error .command
  | some ps =>
    match getParam ps (str "CMD") with
    | none => .error .command
    | some c =>
      if h.isCommand c then
        match Shlex.split ((getParam ps (str "PARAMS")).getD []) with
        | none => .error .internal
        | some args => .ok ⟨c, args⟩
      else .error .command

/-- The native commands. -/
def native : Native Cmd σ
  | .respond raw, s => (s, if respondOk h raw then none else some .command)
  | .m23 arg, s =>
    match h.m23 arg s with
    | none => (s, some .command)
    | some s' => (s', none)
  | .excludeObjectDefineReset, s => (s, none)
  | .saveVariable name value, s => h.saveVariable name value s
  | .runShellCommand raw, s =>
    match shellCall h raw with
    | .error e => (s, some e)
    | .ok c => (h.shell c s, none)
  | .zloadVariable, s => h.zloadVariable s
  | .dwell ms, s => (h.dwell ms s, none)
  | .zcontrolOn, s => (s, none)
  | .cancelPrint, s => h.cancelPrint s
  | .raiseError _, s => (s, some .command)
  | .malformed _, s => (s, some .command)

/-- A script of the host. -/
abbrev Macro (σ : Type) := Script Cmd σ

/-- Invoke a macro with a line of parameters. -/
def invoke (raw : Text) (body : List (Text × Text) → σ → List (Macro σ)) : Macro σ := .call fun s =>
  match extendedParams h.upper raw with
  | none => [.cmd (.malformed raw)]
  | some ps => body ps s

/-! ## Checking the sum -/

/-- `filename.replace(" ", "\ ")`. -/
def escapeSpaces (t : Text) : Text := t.flatMap fun c => if c = ' ' then ['\\', ' '] else [c]

/-- The parameters of `RESPOND PREFIX="…" MSG="…"`. -/
def message (sender msg : Text) : Text :=
  str "PREFIX=\"" ++ sender ++ str "\" MSG=\"" ++ msg ++ str "\""

/-- The parameters of `RESPOND PREFIX="info" MSG="…"`. -/
def info (msg : Text) : Text := message (str "info") msg

/-- The parameters of `RESPOND TYPE=error MSG="…"`, with the type quoted or not. -/
def error (quoted : Bool) (msg : Text) : Text :=
  (if quoted then (str "TYPE=\"error\" MSG=\"") else (str "TYPE=error MSG=\"")) ++ msg ++
    str "\""

/-- `_FINAL_STOP_MD5`. -/
def finalStopMd5 : Macro σ := .call fun _ =>
  [.cmd (.raiseError "Проверка MD5 завершилась с ошибкой. Печать отменена.")]

/-- A message that ends the print. -/
def refuse (quoted : Bool) (msg : Text) : List (Macro σ) :=
  [.cmd (.respond (error quoted msg)), .cmd .cancelPrint, finalStopMd5]

/-- The messages and commands of `_FINAL_CHECK_MD5`, verdict by verdict. -/
def finalCheckBody (checkMd5 : ℤ) (filename : Text) : List (Macro σ) :=
  (if checkMd5 = 0 then
    refuse false (str "Ошибка: Файл '" ++ filename ++
      str "' не был проверен за отведенное время. Печать отменена.") else []) ++
  (if checkMd5 = 1 then
    refuse false (str "Ошибка: Файл '" ++ filename ++
      str "' не указан. Печать отменена.") else []) ++
  (if checkMd5 = 2 then
    refuse true (str "Ошибка: Файл " ++ filename ++
      str " не найден. Печать отменена.") else []) ++
  (if checkMd5 = 3 then
    [.cmd (.respond (error true (str "В файле " ++ filename ++
      str " нет MD5 суммы. Включите ее в Orca. https://github.com/ghzserg/zmod/wiki/Recomendations")))]
    else []) ++
  (if checkMd5 = 4 then
    [.cmd (.respond (error true (str "В файле " ++ filename ++
      str " найдено использование дуг(G2, G3). Отключите их. В Orca: Профиль процесса -> Аппроксимация дугами. Убрать галочку."))),
    .cmd (.respond (info (str "Файл " ++ filename ++
      str " проверен успешно. MD5 сумма совпала.")))] else []) ++
  (if checkMd5 = 8 then
    [.cmd (.respond (error true (str "В файле " ++ filename ++
      str " найдено использование (G17, G18, G19). Замените Cпиральный/Автоматич. Z-Hop. Принтер его не поддерживает."))),
    .cmd (.respond (info (str
      "В Orca: Профиль принтера -> Экструдер 1 -> Тип подъема оси Z. Установите Обычный или Наклонный."))),
    .cmd (.respond (info (str "Файл " ++ filename ++
      str " проверен успешно. MD5 сумма совпала.")))] else []) ++
  (if checkMd5 = 5 then
    [.cmd (.respond (info (str "Файл " ++ filename ++
      str " проверен успешно. MD5 сумма совпала.")))] else []) ++
  (if checkMd5 = 6 then
    refuse true (str "В файле " ++ filename ++
      str " не совпала MD5 сумма. Файл удален. Печать отменена") else []) ++
  (if checkMd5 = 7 then
    refuse true (str "В файле " ++ filename ++
      str " не совпала MD5 сумма. Печать отменена") else [])

/-- `_FINAL_CHECK_MD5`. -/
def finalCheckMd5 (raw : Text) : Macro σ := invoke h raw fun ps s =>
  finalCheckBody (h.savedInt s (str "check_md5") 0) ((getParam ps (str "FILENAME")).getD [])

/-- `_CHECK_MD5`: wait a second while there is no verdict. -/
def checkMd5Wait : Macro σ := .call fun s =>
  if h.savedInt s (str "check_md5") 0 = 0 then [.cmd (.dwell 1000)] else []

/-- The parameters of `RUN_SHELL_COMMAND CMD=check_md5`. -/
def checkMd5Shell (filename delete : Text) : Text :=
  str "CMD=check_md5 PARAMS=\"" ++ escapeSpaces filename ++ str " " ++ delete ++ str "\""

/-- The parameters of `_FINAL_CHECK_MD5`. -/
def finalCheckLine (filename : Text) : Text := str "FILENAME=\"'" ++ filename ++ str "'\""

/-- The reloads of `CHECK_MD5` that wait for the verdict. -/
def pollMd5 : List (Macro σ) :=
  (List.replicate 30 [.cmd .zloadVariable, checkMd5Wait h]).flatten

/-- `CHECK_MD5`. -/
def checkMd5 (raw : Text) : Macro σ := invoke h raw fun ps s =>
  let filename := (getParam ps (str "FILENAME")).getD (h.filePath s)
  [.cmd (.saveVariable (str "check_md5") (str "0"))] ++
  if filename ≠ [] then
    let delete := (getParam ps (str "DELETE")).getD []
    [.cmd (.runShellCommand (checkMd5Shell filename delete))] ++ pollMd5 h ++
    [.cmd .zloadVariable,
      finalCheckMd5 h (finalCheckLine filename)]
  else []

/-! ## Handing the name on -/

/-- The parameters of `CHECK_MD5` in `_PRINT_FILE`. -/
def checkMd5Line (filename : Text) : Text := str "DELETE=True FILENAME='/data/" ++ filename ++ str "'"

/-- The parameters of `RUN_SHELL_COMMAND CMD=zexclude`. -/
def zexcludeLine (filename : Text) : Text := str "CMD=zexclude PARAMS=\"'" ++ filename ++ str "'\""

/-- The parameters of `RUN_SHELL_COMMAND CMD=zpreclear`. -/
def zpreclearLine (mode filename : Text) : Text :=
  str "CMD=zpreclear PARAMS=\"'" ++ filename ++ str "' " ++ mode ++ str "\""

/-- The parameters of `RUN_SHELL_COMMAND CMD=zprint`. -/
def zprintLine (filename : Text) : Text := str "CMD=zprint PARAMS=\"PRINT '" ++ filename ++ str "'\""

/-- The parameters of `RUN_SHELL_COMMAND CMD=zsend`. -/
def zsendLine (filename : Text) : Text := str "CMD=zsend PARAMS=\"M23 '" ++ filename ++ str "'\""

/-- The name as a quoted parameter. -/
def nameLine (filename : Text) : Text := str "FILENAME=\"" ++ filename ++ str "\""

/-- `_PRINT_FILE`, once the sum is dealt with. -/
def prepare (filename : Text) (s : σ) : List (Macro σ) :=
  (if h.savedInt s (str "use_kamp") 0 = 1 then
    [.cmd (.respond (info (str "Получаю данные для KAMP."))),
      .cmd (.runShellCommand (zexcludeLine filename))]
  else []) ++
  [.cmd .zcontrolOn] ++
  (if h.savedInt s (str "preclear") 0 = 1 then
    [.cmd (.respond (info (str "Сейчас будет нагрет стол и экструдер."))),
      .cmd (.respond (message (str "//")
        (str "Экран принтера замерзнет до окончания предочистки."))),
      .cmd (.runShellCommand (zpreclearLine (str "TEST") filename))]
  else
    [.cmd (.runShellCommand (zpreclearLine (str "NONE") filename))])

/-- `_PRINT_FILE`. -/
def printFile (raw : Text) : Macro σ := invoke h raw fun ps s =>
  match getParam ps (str "FILENAME") with
  | none => [.cmd (.raiseError "Ошибка! Имя файла не указано.")]
  | some filename =>
    [.cmd .excludeObjectDefineReset] ++
    (if h.savedInt s (str "force_md5") 1 = 1 then
      [.cmd (.respond (info (str "Запущена проверка MD5 " ++ filename))),
        checkMd5 h (checkMd5Line filename)]
    else []) ++
    prepare h filename s

/-- `LEVELING_PRINT_FILE` and `NOLEVELING_PRINT_FILE`: the message and the last
shell command are what tells them apart. -/
def printFileWith (announce : Text → Text) (handOver : Text → Text) (raw : Text) : Macro σ :=
  invoke h raw fun ps _ =>
    match getParam ps (str "FILENAME") with
    | none => [.cmd (.raiseError "Ошибка! Имя файла не указано.")]
    | some filename =>
      [.cmd (.respond (info (announce filename))),
        .cmd (.m23 (str "/" ++ filename)),
        printFile h (nameLine filename),
        .cmd (.runShellCommand (handOver filename))]

/-- `LEVELING_PRINT_FILE`. -/
def levelingPrintFile (raw : Text) : Macro σ :=
  printFileWith h
    (fun filename => str "Печать файла " ++ filename ++
      str " с построением карты стола с родного экрана")
    zprintLine raw

/-- `NOLEVELING_PRINT_FILE`. -/
def nolevelingPrintFile (raw : Text) : Macro σ :=
  printFileWith h
    (fun filename => str "Печать файла " ++ filename ++ str " с родного экрана")
    zsendLine raw

/-- `filename.replace("\"", "\\\"")`. -/
def escapeQuotes (t : Text) : Text := t.flatMap fun c => if c = '"' then ['\\', '"'] else [c]

/-- `start_print` in screen mode: the macro depends on `print_leveling`. -/
def startPrint (leveling : Bool) (filename : Text) : Macro σ :=
  if leveling then levelingPrintFile h (nameLine (escapeQuotes filename))
  else nolevelingPrintFile h (nameLine (escapeQuotes filename))

end Host

end PrintFile
