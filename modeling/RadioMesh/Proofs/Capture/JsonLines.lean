import RadioMesh.Proofs.Address
import RadioMesh.Proofs.Capture.Dumping
import RadioMesh.Proofs.Text.Json

/-!
# Captures shown as JSON

A capture that is shown whole as JSON is one line for each of its envelopes.  A line is the text
of one object only, and the members of the object give the bytes of the envelope: those of a frame
its four fields, and those of a hub message the fields from which the message is encoded.  So what
is printed determines the capture.
-/

namespace RadioMesh

open Text

namespace Text

/-- A line is what stands in front of the first end of a line. -/
theorem line_append_inj {left right leftRest rightRest : List Char} (leftWhole : '\n' ∉ left)
    (rightWhole : '\n' ∉ right) (same : left ++ '\n' :: leftRest = right ++ '\n' :: rightRest) :
    left = right ∧ leftRest = rightRest := by
  induction left generalizing right with
  | nil =>
      cases right with
      | nil => exact ⟨rfl, (List.cons.inj same).2⟩
      | cons character right =>
          obtain ⟨rfl, _⟩ := List.cons.inj same
          exact absurd List.mem_cons_self rightWhole
  | cons character left ih =>
      cases right with
      | nil =>
          obtain ⟨rfl, _⟩ := List.cons.inj same
          exact absurd List.mem_cons_self leftWhole
      | cons other right =>
          obtain ⟨rfl, behind⟩ := List.cons.inj same
          rw [List.mem_cons, not_or] at leftWhole rightWhole
          obtain ⟨rfl, rest⟩ := ih leftWhole.2 rightWhole.2 behind
          exact ⟨rfl, rest⟩

theorem lines_inj {left right : List (List Char)} (leftWhole : ∀ text ∈ left, '\n' ∉ text)
    (rightWhole : ∀ text ∈ right, '\n' ∉ text) (same : lines left = lines right) :
    left = right := by
  induction left generalizing right with
  | nil =>
      cases right with
      | nil => rfl
      | cons text right => simp [lines] at same
  | cons text left ih =>
      cases right with
      | nil => simp [lines] at same
      | cons other right =>
          rw [List.forall_mem_cons] at leftWhole rightWhole
          simp only [lines, List.flatMap_cons, List.append_assoc, List.singleton_append] at same
          obtain ⟨rfl, behind⟩ := line_append_inj leftWhole.1 rightWhole.1 same
          rw [ih leftWhole.2 rightWhole.2 behind]

namespace Json

/-- The number that a value is, if it is one that counts something. -/
def count? : Json → Option Nat
  | .number (.ofNat value) => some value
  | _ => none

def string? : Json → Option String
  | .string text => some text
  | _ => none

end Json

end Text

namespace Capture

/-- The frame whose members these are. -/
def frameOf? (members : List (String × Json)) : Option Frame := do
  let opcode ← (members.lookup "opcode").bind Json.count?
  let handle ← (members.lookup "handle").bind Json.count?
  let dataLength ← (members.lookup "data_length").bind Json.count?
  let digits ← (members.lookup "data").bind Json.string?
  let data ← (HexInput.parse digits).toOption
  pure ⟨UInt8.ofNat opcode, UInt16.ofNat handle, UInt8.ofNat dataLength, data⟩

/-- The hub message whose members these are. -/
def messageOf? (members : List (String × Json)) : Option HubMessage := do
  let opcode ← (members.lookup "opcode").bind Json.count?
  let handle ← (members.lookup "handle").bind Json.count?
  let source ← (members.lookup "source").bind Json.string?
  let address ← (Address.parse source).toOption
  let messageType ← (members.lookup "message_type").bind Json.count?
  let digits ← (members.lookup "payload").bind Json.string?
  let payload ← (HexInput.parse digits).toOption
  pure ⟨UInt8.ofNat opcode, UInt16.ofNat handle, address, UInt16.ofNat messageType, payload⟩

/-- The envelope of which a capture shows these members. -/
def envelopeOf? (asHub : Bool) (members : List (String × Json)) : Option Bytes :=
  if asHub then (messageOf? members).bind fun message => message.encode.toOption
  else (frameOf? members).map Frame.encode

/-- A line that is the text of one value only, an object, whose members give an envelope. -/
def Tells (asHub : Bool) (line : List Char) (envelope : Bytes) : Prop :=
  ∃ members, (∀ json : Json, json.render.toList = line ↔ json = .object members) ∧
    envelopeOf? asHub members = some envelope

theorem parse_text (bytes : Bytes) : HexInput.parse (Hex.text bytes) = .ok bytes :=
  eq_ok_of_mapError_eq_ok (Conversion.bytesOf_printed (.inl rfl) bytes)

theorem frameOf?_members (frame : Frame) :
    frameOf? (("kind", .string (View.frame frame).title) :: (View.frame frame).members) =
      some frame := by
  simp [frameOf?, View.members, View.count, List.lookup_cons, Json.count?, Json.string?, parse_text,
    Except.toOption]

theorem messageOf?_members (message : HubMessage) (body : HubBody) :
    messageOf? (("kind", .string (View.hub message body).title) ::
      (View.hub message body).members) = some message := by
  simp [messageOf?, View.members, View.count, List.lookup_cons, Json.count?, Json.string?,
    parse_text, Address.parse_text, Except.toOption]

/-- The members of a view give the envelope of which it is a view. -/
theorem envelopeOf?_members {asHub : Bool} {index : Nat} {frame : Frame} {shown : View}
    (consistent : frame.isConsistent = true) (viewed : view asHub index frame = .ok shown) :
    envelopeOf? asHub (("kind", .string shown.title) :: shown.members) = some frame.encode := by
  cases asHub with
  | false =>
      cases viewed
      rw [envelopeOf?, if_neg Bool.false_ne_true, frameOf?_members]
      rfl
  | true =>
      rw [view, if_pos rfl] at viewed
      cases read : HubMessage.ofFrame frame with
      | error error =>
          rw [read] at viewed
          cases viewed
      | ok message =>
          rw [read] at viewed
          dsimp only at viewed
          cases meant : message.body with
          | error error =>
              rw [meant] at viewed
              cases viewed
          | ok body =>
              rw [meant] at viewed
              cases viewed
              have built := HubMessage.toFrame_of_ofFrame_eq_ok consistent read
              rw [envelopeOf?, if_pos rfl, messageOf?_members, Option.bind_some,
                HubMessage.encode, built]
              rfl

theorem tells_of_view {asHub : Bool} {index : Nat} {frame : Frame} {shown : View}
    (consistent : frame.isConsistent = true) (viewed : view asHub index frame = .ok shown) :
    Tells asHub shown.json.characters frame.encode := by
  refine ⟨_, ?_, envelopeOf?_members consistent viewed⟩
  intro json
  rw [Json.characters, String.toList_inj]
  exact Json.render_injective.eq_iff

theorem Tells.unique {asHub : Bool} {line : List Char} {left right : Bytes}
    (tells : Tells asHub line left) (others : Tells asHub line right) : left = right := by
  obtain ⟨members, only, found⟩ := tells
  obtain ⟨otherMembers, otherOnly, otherFound⟩ := others
  have written := (only (.object members)).mpr rfl
  cases (otherOnly (.object members)).mp written
  rw [found] at otherFound
  exact Option.some.inj otherFound

/-- A dump without a failure has read frames only, and has shown all of them. -/
theorem forall₂_view_of_failure_eq_none {asHub : Bool} {index : Nat}
    {items : List (Attempt WireError Frame)}
    (complete : (showItems asHub index items).failure = none) :
    ∃ frames, items.map Attempt.result = frames.map .ok ∧
      List.Forall₂ (fun frame shown => ∃ position, view asHub position frame = .ok shown) frames
        (showItems asHub index items).views := by
  induction items generalizing index with
  | nil => exact ⟨[], rfl, .nil⟩
  | cons item items ih =>
      rw [showItems] at complete ⊢
      cases read : item.result with
      | error error =>
          rw [read] at complete
          cases complete
      | ok frame =>
          rw [read] at complete
          dsimp only at complete ⊢
          cases viewed : view asHub index frame with
          | error failure =>
              rw [viewed] at complete
              cases complete
          | ok shown =>
              rw [viewed] at complete
              obtain ⟨frames, others, each⟩ := ih complete
              refine ⟨frame :: frames, ?_, .cons ⟨index, viewed⟩ each⟩
              rw [List.map_cons, List.map_cons, read, others]

theorem forall₂_tells {asHub : Bool} {frames : List Frame} {views : List View}
    (consistent : ∀ frame ∈ frames, frame.isConsistent = true)
    (each : List.Forall₂ (fun frame shown => ∃ position, view asHub position frame = .ok shown)
      frames views) :
    List.Forall₂ (Tells asHub) (views.map fun shown => shown.json.characters)
      (frames.map Frame.encode) := by
  induction each with
  | nil => exact .nil
  | cons viewed others ih =>
      obtain ⟨first, later⟩ := List.forall_mem_cons.mp consistent
      obtain ⟨position, viewed⟩ := viewed
      exact .cons (tells_of_view first viewed) (ih later)

/-- A capture that is shown without a failure consists of whole envelopes. -/
theorem frames_of_given {content : Bytes} {frames : List Frame}
    (read : (given content).map Attempt.result = frames.map .ok) :
    Envelope.frames content = frames ∧ Envelope.tail content = [] := by
  rw [given, List.map_append, List.map_map] at read
  by_cases clean : (Envelope.tail content).isEmpty = true
  · rw [if_pos clean, List.map_nil, List.append_nil] at read
    refine ⟨?_, List.isEmpty_iff.mp clean⟩
    exact List.map_injective_iff.mpr (fun _ _ same => Except.ok.inj same) read
  · rw [if_neg clean] at read
    have refused : (.error .connectionClosed : Except WireError Frame) ∈
        frames.map Except.ok := by
      rw [← read]
      exact List.mem_append_right _ List.mem_cons_self
    obtain ⟨frame, _, same⟩ := List.mem_map.mp refused
    cases same

end Capture

/-- Views as JSON are lines, one for each of them. -/
theorem View.flatMap_render_json (views : List View) :
    views.flatMap (fun shown => shown.render .json) =
      utf8 (lines (views.map fun shown => shown.json.characters)) := by
  rw [lines, List.flatMap_map, utf8, List.flatMap_assoc]
  congr 1
  funext shown
  rw [render, line, utf8, String.toList_append]
  rfl

namespace Program

theorem reports_of_given {environment : Environment} {words : List String} {path : String}
    {asHub : Bool} {shared : CommandLine.Shared} {content : Bytes}
    (understood : CommandLine.read words = .ok ⟨.dump ⟨path, asHub, none⟩, shared⟩)
    (offers : environment.Offers path content) :
    (execute environment words).Reports
      (format ⟨.dump ⟨path, asHub, none⟩, shared⟩ environment.terminal)
      (Capture.showItems asHub 0 (Capture.given content)).views
      (Capture.showItems asHub 0 (Capture.given content)).failure := by
  have shown : Capture.dump environment.directory environment.stdin ⟨path, asHub, none⟩ =
      Capture.showItems asHub 0 (Capture.given content) := by
    rw [Capture.dump, Capture.source_of_offers offers]
    exact congrArg (Capture.showItems asHub 0) (Capture.items_ofBytes content)
  rw [← shown]
  exact reports_of_dump understood

/-- All of a capture has been shown as JSON without a failure. -/
structure DumpsJson (environment : Environment) (words : List String) (asHub : Bool)
    (content : Bytes) : Prop where
  understood : ∃ path shared,
    CommandLine.read words = .ok ⟨.dump ⟨path, asHub, none⟩, shared⟩ ∧
    format ⟨.dump ⟨path, asHub, none⟩, shared⟩ environment.terminal = .json ∧
    environment.Offers path content
  success : (execute environment words).code = ExitCode.success

/-- What is printed is one line for each of the envelopes, and tells of it. -/
theorem DumpsJson.exists_lines {environment : Environment} {words : List String} {asHub : Bool}
    {content : Bytes} (dumps : DumpsJson environment words asHub content) :
    ∃ envelopes texts, Envelope.Cutting content envelopes [] ∧
      (execute environment words).stdout = utf8 (lines texts) ∧
      (∀ text ∈ texts, '\n' ∉ text) ∧
      List.Forall₂ (Capture.Tells asHub) texts envelopes := by
  obtain ⟨path, shared, understood, json, offers⟩ := dumps.understood
  have reports := reports_of_given understood offers
  rw [json] at reports
  have complete : (Capture.showItems asHub 0 (Capture.given content)).failure = none := by
    cases failed : (Capture.showItems asHub 0 (Capture.given content)).failure with
    | none => rfl
    | some failure =>
        have code := reports.code
        rw [failed, dumps.success] at code
        exact absurd code.symm failure.exitCode_ne_success
  obtain ⟨frames, read, each⟩ := Capture.forall₂_view_of_failure_eq_none complete
  obtain ⟨rfl, nothing⟩ := Capture.frames_of_given read
  have cutting := Envelope.cutting_cut content
  obtain ⟨encoded, consistent⟩ := Envelope.map_encode_frames_of_cutting cutting
  refine ⟨(Envelope.frames content).map Frame.encode,
    (Capture.showItems asHub 0 (Capture.given content)).views.map fun view => view.json.characters,
    ?_, ?_, ?_, ?_⟩
  · rw [encoded, ← nothing]
    exact cutting
  · rw [reports.stdout, View.flatMap_render_json]
  · intro text member
    obtain ⟨view, _, rfl⟩ := List.mem_map.mp member
    exact Json.newline_notMem_characters view.json
  · exact Capture.forall₂_tells consistent each

/-- What is printed of a whole capture as JSON is one line for each of its envelopes, each the text
of an object whose members give the envelope.  No other capture that is shown whole prints the
same. -/
theorem json_dump_loses_nothing {environment : Environment} {words : List String} {asHub : Bool}
    {content : Bytes} (dumps : DumpsJson environment words asHub content) :
    (∃ envelopes texts, Envelope.Cutting content envelopes [] ∧
      (execute environment words).stdout = utf8 (lines texts) ∧
      (∀ text ∈ texts, '\n' ∉ text) ∧
      List.Forall₂ (Capture.Tells asHub) texts envelopes) ∧
    ∀ otherEnvironment otherWords other, DumpsJson otherEnvironment otherWords asHub other →
      (execute environment words).stdout = (execute otherEnvironment otherWords).stdout →
      content = other := by
  refine ⟨dumps.exists_lines, ?_⟩
  intro otherEnvironment otherWords other otherDumps same
  obtain ⟨envelopes, texts, cutting, printed, whole, tells⟩ := dumps.exists_lines
  obtain ⟨otherEnvelopes, otherTexts, otherCutting, otherPrinted, otherWhole, otherTells⟩ :=
    otherDumps.exists_lines
  rw [printed, otherPrinted] at same
  obtain rfl := lines_inj whole otherWhole (utf8_injective same)
  have unique : Relator.RightUnique (Capture.Tells asHub) :=
    fun _ _ _ first second => first.unique second
  obtain rfl : envelopes = otherEnvelopes := List.right_unique_forall₂' unique tells otherTells
  rw [← cutting.joined, ← otherCutting.joined]

/-- Two hub messages on the standard input, of which the second has no payload. -/
theorem json_dump_loses_nothing_of_two_messages :
    let content : Bytes :=
      [1, 2, 0, 9, 6, 5, 4, 3, 2, 1, 7, 0, 9, 3, 0, 1, 8, 6, 5, 4, 3, 2, 1, 5, 0]
    let environment : Environment := ⟨.ofFiles [] [], content, 0, 0, 0, .current, true⟩
    let words := ["dump", "-", "--hub", "--format", "json"]
    DumpsJson environment words true content ∧
      ∀ otherEnvironment otherWords other,
        DumpsJson otherEnvironment otherWords true other →
        (execute environment words).stdout = (execute otherEnvironment otherWords).stdout →
        content = other := by
  intro content environment words
  have understood : CommandLine.read words =
      .ok ⟨.dump ⟨"-", true, none⟩, ⟨some .json, none, none⟩⟩ := by rfl
  let frames : List Frame := [⟨1, 2, 9, [6, 5, 4, 3, 2, 1, 7, 0, 9]⟩,
    ⟨3, 256, 8, [6, 5, 4, 3, 2, 1, 5, 0]⟩]
  have consistent : ∀ frame ∈ frames, frame.isConsistent = true := by decide
  have given : Capture.given content =
      frames.map fun frame => ⟨.ok frame, [frame.decodedEvent]⟩ :=
    Capture.given_flatMap_encode consistent
  have dumps : DumpsJson environment words true content := by
    refine ⟨⟨"-", _, understood, rfl, .stdin rfl rfl⟩, ?_⟩
    rw [(reports_of_given understood (.stdin rfl rfl)).code, given]
    rfl
  exact ⟨dumps, (json_dump_loses_nothing dumps).2⟩

end Program

end RadioMesh
