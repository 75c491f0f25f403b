import RadioMesh.Output.Format
import RadioMesh.Proofs.Text.Json
import RadioMesh.Proofs.Text.SeparatedHex
import Mathlib.Data.List.Forall2

/-!
# Sheets

A sheet is what there is to print of a record: its name, members for programs, rows for people,
and bare bytes.  Each format prints a part of it: JSON the members, as one line that is the text
of no other value; a table the rows, each between strokes; pretty output the rows with equality
signs; raw output the bytes.  Whatever a command shows of a record is the sheet of the record.
-/

namespace RadioMesh

open Text

namespace Text

/-- Lines, each with its end. -/
def lines (texts : List (List Char)) : List Char := texts.flatMap fun text => text ++ ['\n']

end Text

/-- What there is to print of a record. -/
structure Sheet where
  title : String
  members : List (String × Json)
  rows : List (String × String)
  bare : Bytes

namespace Sheet

/-- A line between strokes, with two cells that are filled up with spaces. -/
def IsRowLine (field value line : List Char) : Prop :=
  ∃ fieldFill valueFill : Nat,
    line = ['│', ' '] ++ field ++ List.replicate fieldFill ' ' ++ [' ', '┆', ' '] ++ value ++
      List.replicate valueFill ' ' ++ [' ', '│']

/-- Lines that together show the two cells of a row.  One line is enough unless a cell has more
than 65535 characters. -/
structure ShowsRow (cells : String × String) (texts : List (List Char)) : Prop where
  divided : ∃ parts : List (List Char × List Char),
    (parts.map Prod.fst).flatten = cells.1.toList ∧
    (parts.map Prod.snd).flatten = cells.2.toList ∧
    List.Forall₂ (fun part text => IsRowLine part.1 part.2 text) parts texts
  single : cells.1.length ≤ 65535 → cells.2.length ≤ 65535 → texts.length = 1

/-- How a sheet is printed.  Of the lines of a table, those between strokes show its heading and
its rows. -/
inductive Printed (sheet : Sheet) : OutputFormat → Bytes → Prop where
  | json {text : List Char} :
      '\n' ∉ text →
      (∀ json : Json, json.render.toList = text ↔
        json = .object (("kind", .string sheet.title) :: sheet.members)) →
      Printed sheet .json (utf8 (text ++ ['\n']))
  | table {texts : List (List Char)} {blocks : List (List (List Char))} :
      texts.filter (fun text => text.head? = some '│') = blocks.flatten →
      List.Forall₂ ShowsRow (("FIELD", "VALUE") :: ("kind", sheet.title) :: sheet.rows) blocks →
      Printed sheet .table (utf8 (lines texts))
  | pretty :
      Printed sheet .pretty (utf8 (sheet.title ++ " " ++
        " ".intercalate (sheet.rows.map fun (field, value) => field ++ "=" ++ value) ++
        "\n").toList)
  | raw :
      Printed sheet .raw sheet.bare

end Sheet

/-! The sheets of the records, entry by entry. -/

def Frame.sheet (frame : Frame) : Sheet where
  title := "frame"
  members :=
    [("opcode", .number frame.opcode.toNat), ("handle", .number frame.handle.toNat),
      ("data_length", .number frame.dataLength.toNat), ("data_size", .number frame.data.length),
      ("length_consistent", .truth (decide (frame.dataLength.toNat = frame.data.length))),
      ("data", .string (Hex.text frame.data))]
  rows :=
    [("opcode", "0x" ++ Hex.text [frame.opcode]),
      ("handle", "0x" ++ Hex.text [Word16.high frame.handle, Word16.low frame.handle]),
      ("data_length", toString frame.dataLength.toNat), ("data_size", toString frame.data.length),
      ("length_consistent", toString (decide (frame.dataLength.toNat = frame.data.length))),
      ("data", Hex.text frame.data)]
  bare := frame.data

/-- The sheet of a hub message, with the devices of a payload that is a scan result. -/
def HubMessage.sheet (message : HubMessage) (devices : Option (List ScannedDevice)) : Sheet where
  title := "hub"
  members :=
    [("opcode", .number message.opcode.toNat), ("handle", .number message.handle.toNat),
      ("source", .string message.source.text), ("broadcast", .truth message.source.isBroadcast),
      ("message_type", .number message.messageType.toNat),
      ("message_name", .string (hubMessageName message.messageType)),
      ("payload", .string (Hex.text message.payload))] ++
      devices.toList.map fun devices => ("devices", .array (devices.map fun device => .object
        [("address", .string device.address.text), ("rssi", .number device.rssi.toInt),
          ("occurrences", .number device.occurrences.toNat)]))
  rows :=
    [("opcode", "0x" ++ Hex.text [message.opcode]),
      ("handle", "0x" ++ Hex.text [Word16.high message.handle, Word16.low message.handle]),
      ("source", message.source.text), ("broadcast", toString message.source.isBroadcast),
      ("message_type", toString message.messageType.toNat ++ " (" ++
        hubMessageName message.messageType ++ ")"),
      ("payload", Hex.text message.payload)] ++
      (devices.getD []).map fun device => ("device", device.address.text ++
        " rssi=" ++ toString device.rssi.toInt ++ " seen=" ++ toString device.occurrences.toNat)
  bare := message.payload

def ConfigRecord.sheet (record : ConfigRecord) : Sheet where
  title := "config"
  members :=
    [("config_type", .number record.kind.toNat), ("name", .string (configTypeName record.kind)),
      ("length", .number record.length.toNat), ("payload", .string (Hex.text record.payload))] ++
      record.value?.toList.map fun value => ("value", .number value)
  rows :=
    [("type", "0x" ++ Hex.text [record.kind] ++ " (" ++ configTypeName record.kind ++ ")"),
      ("length", toString record.length.toNat), ("payload", Hex.text record.payload)] ++
      record.value?.toList.map fun value => ("value", toString value)
  bare := record.payload

def TrackedDevice.sheet (device : TrackedDevice) : Sheet where
  title := "tracked"
  members := [("address", .string device.address.text), ("rssi", .number device.rssi.toInt)]
  rows := [("address", device.address.text), ("rssi", toString device.rssi.toInt)]
  bare := []

def TrackedDevice.listSheet (devices : List TrackedDevice) : Sheet where
  title := "tracked-list"
  members := [("devices", .array (devices.map fun device => .object
    [("address", .string device.address.text), ("rssi", .number device.rssi.toInt)]))]
  rows := devices.map fun device =>
    ("device", device.address.text ++ " rssi=" ++ toString device.rssi.toInt)
  bare := []

def MeshCommand.sheet (command : MeshCommand) : Sheet where
  title := "command"
  members :=
    [("channel", .number command.channel.toNat), ("target", .string command.target.text),
      ("broadcast", .truth command.target.isBroadcast),
      ("message_type", .number command.messageType.toNat),
      ("payload", .string (Hex.text command.payload))]
  rows :=
    [("channel", toString command.channel.toNat), ("target", command.target.text),
      ("broadcast", toString command.target.isBroadcast),
      ("message_type", toString command.messageType.toNat),
      ("payload", Hex.text command.payload)]
  bare := command.payload

/-- The sheet of bytes that a record was encoded to. -/
def Sheet.encoded (kind : RecordKind) (bytes : Bytes) : Sheet where
  title := "encoded"
  members :=
    [("record", .string kind.name), ("size", .number bytes.length),
      ("hex", .string (Hex.text bytes))]
  rows := [("record", kind.name), ("size", toString bytes.length), ("hex", Hex.text bytes)]
  bare := bytes

namespace Text.BoxTable

theorem flatten_parts (width : Nat) (text : List Char) : (parts width text).flatten = text := by
  fun_induction parts width text with
  | case1 text long ih => rw [List.flatten_cons, ih, List.take_append_drop]
  | case2 text short => simp

theorem parts_of_length_le {width : Nat} {text : List Char} (fits : text.length ≤ width) :
    parts width text = [text] := by
  rw [parts, if_neg]
  omega

theorem flatten_fst_beside (fields values : List (List Char)) :
    ((beside fields values).map Prod.fst).flatten = fields.flatten := by
  unfold beside
  induction fields generalizing values with
  | nil => simp
  | cons field fields ih =>
      cases values with
      | nil => simp [Function.comp_def]
      | cons value values => simp [ih]

theorem flatten_snd_beside (fields values : List (List Char)) :
    ((beside fields values).map Prod.snd).flatten = values.flatten := by
  unfold beside
  induction values generalizing fields with
  | nil => simp
  | cons value values ih =>
      cases fields with
      | nil => simp [Function.comp_def]
      | cons field fields => simp [ih]

theorem isRowLine_rowLine (left right : Nat) (field value : List Char) :
    Sheet.IsRowLine field value (rowLine left right field value) := by
  refine ⟨left - field.length, right - value.length, ?_⟩
  simp [rowLine, cell]

theorem length_le_columnWidth {cells : List String} {text : String} (member : text ∈ cells)
    (short : text.length ≤ 65535) : text.length ≤ columnWidth cells := by
  apply Nat.le_min.mpr
  refine ⟨short, ?_⟩
  rw [List.foldl_max, Nat.zero_max]
  exact List.le_max?_getD_of_mem (List.mem_map_of_mem member)

/-- The lines of a row show it, whatever the widths of the columns are. -/
theorem showsRow_row {left right : Nat} {cells : String × String}
    (leftFits : cells.1.length ≤ 65535 → cells.1.length ≤ left)
    (rightFits : cells.2.length ≤ 65535 → cells.2.length ≤ right) :
    Sheet.ShowsRow cells (row left right cells) := by
  constructor
  case divided =>
    refine ⟨_, (flatten_fst_beside _ _).trans (flatten_parts left _),
      (flatten_snd_beside _ _).trans (flatten_parts right _), ?_⟩
    rw [row, List.forall₂_map_right_iff]
    exact List.forall₂_same.mpr fun part _ => isRowLine_rowLine left right part.1 part.2
  case single =>
    intro fieldShort valueShort
    rw [row, parts_of_length_le (leftFits fieldShort), parts_of_length_le (rightFits valueShort)]
    rfl

theorem head?_of_mem_row {left right : Nat} {cells : String × String} {line : List Char}
    (member : line ∈ row left right cells) : line.head? = some '│' := by
  obtain ⟨part, _, rfl⟩ := List.mem_map.mp member
  rfl

theorem filter_row (left right : Nat) (cells : String × String) :
    (row left right cells).filter (fun text => text.head? = some '│') = row left right cells := by
  apply List.filter_eq_self.mpr
  intro line member
  exact decide_eq_true (head?_of_mem_row member)

theorem filter_rule_cons {first : Char} (other : first ≠ '│') (left right : Nat)
    (line crossing last : Char) (texts : List (List Char)) :
    (rule left right first line crossing last :: texts).filter
        (fun text => text.head? = some '│') =
      texts.filter fun text => text.head? = some '│' := by
  apply List.filter_cons_of_neg
  rw [decide_eq_true_iff]
  exact fun same => other (Option.some.inj same)

theorem filter_flatten_intersperse (left right : Nat) (rows : List (String × String)) :
    ((rows.map (row left right)).intersperse
        [rule left right '├' '╌' '┼' '┤']).flatten.filter (fun text => text.head? = some '│') =
      (rows.map (row left right)).flatten := by
  induction rows with
  | nil => rfl
  | cons cells rows ih =>
      cases rows with
      | nil => simpa using filter_row left right cells
      | cons next rows =>
          simp only [List.map_cons, List.intersperse_cons_cons, List.flatten_cons,
            List.filter_append, List.cons_append, List.nil_append, filter_row] at ih ⊢
          rw [filter_rule_cons (by decide), ih]

/-- Of the lines of a table, those between strokes are those of its heading and its rows. -/
theorem filter_lines (heading : String × String) (rows : List (String × String)) :
    (lines heading rows).filter (fun text => text.head? = some '│') =
      ((heading :: rows).map (row (columnWidth ((heading :: rows).map Prod.fst))
        (columnWidth ((heading :: rows).map Prod.snd)))).flatten := by
  simp only [lines, List.map_cons, List.flatten_cons]
  generalize columnWidth (heading.1 :: rows.map Prod.fst) = left
  generalize columnWidth (heading.2 :: rows.map Prod.snd) = right
  simp only [List.cons_append, List.append_assoc]
  rw [filter_rule_cons (by decide), List.filter_append, filter_row,
    filter_rule_cons (by decide), List.filter_append, filter_flatten_intersperse,
    filter_rule_cons (by decide), List.filter_nil, List.append_nil]

theorem forall₂_showsRow (cells : List (String × String)) :
    List.Forall₂ Sheet.ShowsRow cells
      (cells.map (row (columnWidth (cells.map Prod.fst)) (columnWidth (cells.map Prod.snd)))) := by
  rw [List.forall₂_map_right_iff]
  apply List.forall₂_same.mpr
  intro pair member
  exact showsRow_row (length_le_columnWidth (List.mem_map_of_mem member))
    (length_le_columnWidth (List.mem_map_of_mem member))

/-- The text of a table is its lines. -/
theorem toList_render_append (heading : String × String) (rows : List (String × String)) :
    (render heading rows ++ "\n").toList = Text.lines (lines heading rows) := by
  have joined : ∀ (first : List Char) (texts : List (List Char)),
      List.intercalate ['\n'] (first :: texts) ++ ['\n'] = Text.lines (first :: texts) := by
    intro first texts
    induction texts generalizing first with
    | nil => simp [Text.lines]
    | cons next texts ih =>
        rw [List.intercalate_cons_cons, List.append_assoc, ih]
        simp [Text.lines]
  rw [String.toList_append, render, String.toList_ofList]
  exact joined _ _

end Text.BoxTable

namespace View

/-- What there is to print of a view. -/
def sheet (view : View) : Sheet := ⟨view.title, view.members, view.rows, view.raw⟩

/-- Every format prints the sheet of a view. -/
theorem printed_render (view : View) (format : OutputFormat) :
    view.sheet.Printed format (view.render format) := by
  cases format with
  | json =>
      have text : view.json.render.toList ++ ['\n'] = (view.json.render ++ "\n").toList := by
        rw [String.toList_append]
        rfl
      rw [render, line, ← text]
      apply Sheet.Printed.json (Json.newline_notMem_characters view.json)
      intro json
      rw [Json.characters, String.toList_inj]
      exact Json.render_injective.eq_iff
  | table =>
      rw [render, line, table, BoxTable.toList_render_append]
      exact .table (BoxTable.filter_lines _ _) (BoxTable.forall₂_showsRow _)
  | pretty => exact .pretty
  | raw => exact .raw

theorem yesNo_eq_toString (value : Bool) : yesNo value = toString value := by
  cases value <;> rfl

theorem hexByte_eq_append (byte : UInt8) : hexByte byte = "0x" ++ Hex.text [byte] := by
  rw [hexByte_eq, ← String.toList_inj]
  simp [Hex.text]

theorem hexWord_eq_append (word : UInt16) :
    hexWord word = "0x" ++ Hex.text [Word16.high word, Word16.low word] := by
  rw [hexWord_eq, ← String.toList_inj]
  simp [Hex.text]

theorem sheet_frame (frame : Frame) : (View.frame frame).sheet = frame.sheet := by
  simp only [sheet, members, rows, hexByte_eq_append, hexWord_eq_append, yesNo_eq_toString]
  rfl

theorem sheet_hub (message : HubMessage) (body : HubBody) :
    (View.hub message body).sheet = message.sheet (devices? body) := by
  simp only [sheet, members, rows, hexByte_eq_append, hexWord_eq_append, yesNo_eq_toString]
  cases body <;> rfl

theorem sheet_config (record : ConfigRecord) : (View.config record).sheet = record.sheet := by
  simp only [sheet, members, rows, hexByte_eq_append, ConfigRecord.sheet]
  cases record.value? <;> rfl

theorem sheet_tracked (device : TrackedDevice) :
    (View.tracked device).sheet = device.sheet := rfl

theorem sheet_trackedList (devices : List TrackedDevice) :
    (View.trackedList devices).sheet = TrackedDevice.listSheet devices := rfl

theorem sheet_command (command : MeshCommand) :
    (View.command command).sheet = command.sheet := by
  simp only [sheet, members, rows, yesNo_eq_toString]
  rfl

theorem sheet_encoded (kind : RecordKind) (bytes : Bytes) :
    (View.encoded kind bytes).sheet = Sheet.encoded kind bytes := rfl

end View

end RadioMesh
