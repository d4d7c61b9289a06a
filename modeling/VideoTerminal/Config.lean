import VideoTerminal.Config.Json

namespace VideoTerminal

structure Environment where
  shell : Option String := none
  configPath : Option String := none
  configHome : Option String := none
  home : Option String := none
  deriving DecidableEq, Repr, Inhabited

structure Config where
  shell : String
  term : String := "xterm"
  logFile : Option String := none
  titleBar : Bool := true
  deriving DecidableEq, Repr, Inhabited

namespace Config

def default (env : Environment) : Config := { shell := env.shell.getD "/bin/sh" }

structure Draft where
  shell : Option String := none
  term : Option String := none
  logFile : Option (Option String) := none
  titleBar : Option Bool := none
  deriving DecidableEq, Repr, Inhabited

def Draft.complete (d : Draft) (env : Environment) : Config :=
  let fallback := default env
  { shell := d.shell.getD fallback.shell
    term := d.term.getD fallback.term
    logFile := d.logFile.getD fallback.logFile
    titleBar := d.titleBar.getD fallback.titleBar }

inductive Field where
  | shell
  | term
  | logFile
  | titleBar
  deriving DecidableEq, Repr, Inhabited

def Field.ofKey? (key : String) : Option Field :=
  if key == "shell" then some .shell
  else if key == "term" then some .term
  else if key == "log_file" then some .logFile
  else if key == "title_bar" then some .titleBar
  else none

def Draft.has (d : Draft) : Field → Bool
  | .shell => d.shell.isSome
  | .term => d.term.isSome
  | .logFile => d.logFile.isSome
  | .titleBar => d.titleBar.isSome

def Draft.readField (d : Draft) (field : Field) (s : List UInt8) : Json.Read Draft :=
  match field with
  | .shell => (Json.readStringValue s).map fun (value, s) => ({ d with shell := some value }, s)
  | .term => (Json.readStringValue s).map fun (value, s) => ({ d with term := some value }, s)
  | .logFile =>
    (Json.readNullable Json.readStringValue s).map fun (value, s) =>
      ({ d with logFile := some value }, s)
  | .titleBar => (Json.readBoolValue s).map fun (value, s) => ({ d with titleBar := some value }, s)

def expectColon (s : List UInt8) : Except Json.Fault (List UInt8) :=
  match Json.skipBlank s with
  | [] => .error .endOfText
  | 0x3a :: rest => .ok rest
  | _ => .error .badSyntax

def Draft.readMember (d : Draft) (s : List UInt8) : Except Json.Fault (Draft × List UInt8) := do
  let (key, s) ← Json.readString s
  match Field.ofKey? key with
  | none => return (d, ← Json.skipValue (← expectColon s))
  | some field => if d.has field then .error .badData else d.readField field (← expectColon s)

-- Members up to the closing brace. Each takes a byte at least, so the length
-- of the text bounds their number.
def Draft.readMembers (d : Draft) :
    Nat → Bool → List UInt8 → Except Json.Fault (Draft × List UInt8)
  | 0, _, _ => .error .endOfText
  | fuel + 1, isFirst, s =>
    match Json.skipBlank s, isFirst with
    | [], _ => .error .endOfText
    | 0x7d :: rest, _ => .ok (d, rest)
    | 0x22 :: rest, true => do
      let (d, rest) ← d.readMember rest
      d.readMembers fuel false rest
    | 0x2c :: rest, false =>
      match Json.skipBlank rest with
      | [] => .error .endOfText
      | 0x22 :: rest => do
        let (d, rest) ← d.readMember rest
        d.readMembers fuel false rest
      | _ => .error .badSyntax
    | _, _ => .error .badSyntax

-- Fields in their order. A list may stop early but not go on behind the last.
def Draft.readItems (d : Draft) (isFirst : Bool) : List Field → List UInt8 →
    Except Json.Fault (Draft × List UInt8)
  | [], s =>
    match Json.skipBlank s with
    | [] => .error .endOfText
    | 0x5d :: rest => .ok (d, rest)
    | _ => .error .badSyntax
  | field :: fields, s =>
    match Json.skipBlank s, isFirst with
    | [], _ => .error .endOfText
    | 0x5d :: rest, _ => .ok (d, rest)
    | s, true => do
      let (d, rest) ← d.readField field s
      d.readItems false fields rest
    | 0x2c :: rest, false =>
      match Json.skipBlank rest with
      | [] => .error .endOfText
      | 0x5d :: _ => .error .badSyntax
      | rest => do
        let (d, rest) ← d.readField field rest
        d.readItems false fields rest
    | _, false => .error .badSyntax

def readDraft (s : List UInt8) : Except Json.Fault (Draft × List UInt8) :=
  match Json.skipBlank s with
  | [] => .error .endOfText
  | 0x7b :: rest => Draft.readMembers {} (rest.length + 1) true rest
  | 0x5b :: rest => Draft.readItems {} true [.shell, .term, .logFile, .titleBar] rest
  | s => .error (Json.misplaced s)

def ofJson (env : Environment) (text : List UInt8) : Except Json.Fault Config := do
  let (draft, rest) ← readDraft text
  if (Json.skipBlank rest).isEmpty then return draft.complete env else .error .badSyntax

end Config

end VideoTerminal
