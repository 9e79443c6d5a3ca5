import PaddleLink.Proofs.Json.Records
import PaddleLink.Proofs.Wire.RoundTrip

/-!
The envelopes of a frame stand for themselves. What is in one of them decides over its own event, and over no
other; only where the frame is no array of envelopes is all of it lost.
-/

namespace PaddleLink

open Json

def writeEnvelopes (es : List Envelope) : String :=
  (Value.array (es.map Envelope.toJson)).toText

theorem writeFrame_eq_writeEnvelopes (events : List Event) :
    writeFrame events = writeEnvelopes (events.map Event.seal) :=
  writeFrame_eq events

namespace Envelope

structure IsIn (e : Envelope) (members : List (Name × Tree)) : Prop where
  named : ∀ m ∈ members, ∃ name, m.1 = .ok name
  legible : ∀ m ∈ members, m.2.skipFault = none
  topic : members.filter (isNamed "topic") = [(.ok "topic", .string (.ok e.topic))]
  event : members.filter (isNamed "event") = [(.ok "event", .string (.ok e.event))]

/-- What an envelope is read from: an object with its fields in any order, or an array of them. -/
inductive IsReadFrom (e : Envelope) : Tree → Prop where
  | object {members : List (Name × Tree)} (h : e.IsIn members) : IsReadFrom e (.object members .closed)
  | array : IsReadFrom e (.array [.string (.ok e.topic), .string (.ok e.event)] .closed)

def fields : List Json.Field :=
  [⟨"topic", fun t => (text t).map fun _ => (), false⟩, ⟨"event", fun t => (text t).map fun _ => (), false⟩]

def record : Record Envelope :=
  mk <$> field "topic" text <*> field "event" text

theorem decode_eq : decode = record.decode "RawEnvelope" :=
  rfl

theorem reads_iff {look : String → Option Tree} {e : Envelope} :
    record.Reads look e ↔ look "topic" = some (.string (.ok e.topic)) ∧ look "event" = some (.string (.ok e.event)) := by
  simp only [record, reads_seq_iff, reads_map_iff, reads_field_iff, text_eq_ok_iff]
  constructor
  · rintro ⟨_, event, ⟨topic, ⟨_, htopic, rfl⟩, rfl⟩, ⟨_, hevent, rfl⟩, rfl⟩
    exact ⟨htopic, hevent⟩
  · rintro ⟨htopic, hevent⟩
    exact ⟨_, e.event, ⟨e.topic, ⟨_, htopic, rfl⟩, rfl⟩, ⟨_, hevent, rfl⟩, rfl⟩

theorem isIn_iff {e : Envelope} {members : List (Name × Tree)} :
    e.IsIn members ↔ OneEach ["topic", "event"] members ∧
      member? members "topic" = some (.string (.ok e.topic)) ∧
      member? members "event" = some (.string (.ok e.event)) := by
  constructor
  · intro h
    obtain ⟨htopicOnce, htopic⟩ := filter_isNamed_iff.mp h.topic
    obtain ⟨heventOnce, hevent⟩ := filter_isNamed_iff.mp h.event
    have honce : ∀ name ∈ ["topic", "event"], (members.filter (isNamed name)).length ≤ 1 := by
      simp [htopicOnce, heventOnce]
    exact ⟨⟨h.named, honce, fun m hm _ => h.legible m hm⟩, htopic, hevent⟩
  · rintro ⟨honly, htopic, hevent⟩
    have htopicAlone := filter_isNamed_iff.mpr ⟨honly.once "topic" (by simp), htopic⟩
    have heventAlone := filter_isNamed_iff.mpr ⟨honly.once "event" (by simp), hevent⟩
    refine ⟨honly.named, ?_, htopicAlone, heventAlone⟩
    intro m hm
    have hfield (name s : String) (halone : members.filter (isNamed name) = [(.ok name, .string (.ok s))])
        (hnamed : isNamed name m = true) : m.2.skipFault = none := by
      have hmem := List.mem_filter.mpr ⟨hm, hnamed⟩
      rw [halone, List.mem_singleton] at hmem
      rw [hmem]
      rfl
    cases htopicName : isNamed "topic" m with
    | true => exact hfield _ _ htopicAlone htopicName
    | false =>
      cases heventName : isNamed "event" m with
      | true => exact hfield _ _ heventAlone heventName
      | false =>
        apply honly.others m hm
        simp [htopicName, heventName]

theorem decode_eq_ok_iff {t : Tree} {e : Envelope} : decode t = .ok e ↔ e.IsReadFrom t := by
  have hnames : (fields.map Json.Field.name).Nodup := by decide
  rw [decode_eq, Record.decode_eq_ok_iff hnames]
  simp only [reads_iff]
  constructor
  · rintro (⟨members, rfl, honly, hread⟩ | ⟨items, rfl, hlength, -, htopic, hevent⟩)
    · exact .object (isIn_iff.mpr ⟨honly, hread⟩)
    · match items with
      | [] => cases htopic
      | [a] => cases hevent
      | [a, b] =>
        cases htopic
        cases hevent
        exact .array
      | _ :: _ :: _ :: rest =>
        have hfew : rest.length + 1 + 1 + 1 ≤ 2 := hlength
        omega
  · intro h
    cases h with
    | object h =>
      obtain ⟨honly, hread⟩ := isIn_iff.mp h
      exact .inl ⟨_, rfl, honly, hread⟩
    | array => exact .inr ⟨_, rfl, Nat.le_refl 2, nofun, rfl, rfl⟩

theorem event?_eq_some_iff {e : Envelope} {event : Event} : e.event? = some event ↔ e.unseal = .ok (some event) := by
  rw [event?]
  cases h : e.unseal <;> simp

/-- The reasons for passing over an envelope: its topic is not known, its text does not say an event of the topic, or
the event breaks a limit. -/
theorem event?_eq_none_iff {e : Envelope} :
    e.event? = none ↔ Topic.ofName? e.topic = none ∨ ∃ topic, Topic.ofName? e.topic = some topic ∧
      ((∃ p, (Event.decode topic).run e.event = .error p) ∨
        ∃ event v, (Event.decode topic).run e.event = .ok event ∧ event.violation? = some v) := by
  rw [event?, Envelope.unseal]
  cases htopic : Topic.ofName? e.topic with
  | none => simp
  | some topic =>
    cases hrun : (Event.decode topic).run e.event with
    | error p => simp [hrun]
    | ok event => cases hvalid : event.violation? <;> simp [hrun, hvalid]

end Envelope

def IsFrameOf (text : String) (es : List Envelope) : Prop :=
  ∃ items, Document.ofString text = ⟨.array items .closed, false⟩ ∧
    List.Forall₂ (fun t e => Envelope.IsReadFrom e t) items es

theorem run_envelopes_iff {text : String} {es : List Envelope} :
    (list Envelope.decode).run text = .ok es ↔ IsFrameOf text es := by
  rw [run_eq_ok_iff, list_eq_ok_iff, IsFrameOf]
  simp only [Envelope.decode_eq_ok_iff]
  constructor
  · rintro ⟨⟨items, hroot, hes⟩, htrailing⟩
    exact ⟨items, by rw [← hroot, ← htrailing], hes⟩
  · rintro ⟨items, hdocument, hes⟩
    rw [hdocument]
    exact ⟨⟨items, rfl, hes⟩, rfl⟩

theorem isFrameOf_writeEnvelopes (es : List Envelope) : IsFrameOf (writeEnvelopes es) es :=
  run_envelopes_iff.mp
    (run_toText (legible_map es fun e _ => e.legible) (list_toTree es fun e _ => e.decode_toTree))

/-- A frame is read exactly when it is an array of envelopes, and then gives the events of those that have one. -/
theorem readFrame_eq_ok_iff {text : String} {events : List Event} :
    readFrame text = .ok events ↔ ∃ es, IsFrameOf text es ∧ es.filterMap Envelope.event? = events := by
  simp only [← run_envelopes_iff, readFrame]
  cases (list Envelope.decode).run text <;> simp

theorem readFrame_eq_error_iff {text : String} :
    (∃ p, readFrame text = .error (.frame p)) ↔ ¬∃ es, IsFrameOf text es := by
  simp only [← run_envelopes_iff, readFrame]
  cases (list Envelope.decode).run text <;> simp

theorem readFrame_writeEnvelopes (es : List Envelope) :
    readFrame (writeEnvelopes es) = .ok (es.filterMap Envelope.event?) :=
  readFrame_eq_ok_iff.mpr ⟨es, isFrameOf_writeEnvelopes es, rfl⟩

/-- The envelopes before and behind one give their events, whatever is in it or whether it is there. -/
theorem readFrame_around (before after : List Envelope) (e : Option Envelope) :
    readFrame (writeEnvelopes (before ++ e.toList ++ after)) =
      .ok (before.filterMap Envelope.event? ++ (e.bind Envelope.event?).toList ++ after.filterMap Envelope.event?) := by
  have hone : e.toList.filterMap Envelope.event? = (e.bind Envelope.event?).toList := by
    cases e with
    | none => rfl
    | some e => cases h : e.event? <;> simp [h]
  rw [readFrame_writeEnvelopes, List.filterMap_append, List.filterMap_append, hone]

/-- Every envelope stands for itself. A frame gives the events of its envelopes in their order and leaves out those
that have none, so frames may be joined, and one envelope may be put in, changed or taken out, without any other
event being touched. Only a text that is no array of envelopes fails, and it fails as a whole. -/
theorem envelopes_stand_alone :
    (∀ es : List Envelope, IsFrameOf (writeEnvelopes es) es ∧
      readFrame (writeEnvelopes es) = .ok (es.filterMap Envelope.event?)) ∧
    (∀ text events, readFrame text = .ok events ↔
      ∃ es, IsFrameOf text es ∧ es.filterMap Envelope.event? = events) ∧
    (∀ (e : Envelope) event, e.event? = some event ↔ e.unseal = .ok (some event)) ∧
    (∀ e : Envelope, e.event? = none ↔
      Topic.ofName? e.topic = none ∨ ∃ topic, Topic.ofName? e.topic = some topic ∧
        ((∃ p, (Event.decode topic).run e.event = .error p) ∨
          ∃ event v, (Event.decode topic).run e.event = .ok event ∧ event.violation? = some v)) ∧
    (∀ es fs : List Envelope, ∃ xs ys, readFrame (writeEnvelopes es) = .ok xs ∧
      readFrame (writeEnvelopes fs) = .ok ys ∧ readFrame (writeEnvelopes (es ++ fs)) = .ok (xs ++ ys)) ∧
    (∀ before after : List Envelope, ∃ xs ys, ∀ e : Option Envelope,
      readFrame (writeEnvelopes (before ++ e.toList ++ after)) =
        .ok (xs ++ (e.bind Envelope.event?).toList ++ ys)) ∧
    ∀ text, (∃ p, readFrame text = .error (.frame p)) ↔ ¬∃ es, IsFrameOf text es := by
  refine ⟨fun es => ⟨isFrameOf_writeEnvelopes es, readFrame_writeEnvelopes es⟩, fun _ _ => readFrame_eq_ok_iff,
    fun _ _ => Envelope.event?_eq_some_iff, fun _ => Envelope.event?_eq_none_iff, ?_, ?_,
    fun _ => readFrame_eq_error_iff⟩
  · intro es fs
    have hboth := readFrame_writeEnvelopes (es ++ fs)
    rw [List.filterMap_append] at hboth
    exact ⟨_, _, readFrame_writeEnvelopes es, readFrame_writeEnvelopes fs, hboth⟩
  · intro before after
    exact ⟨_, _, readFrame_around before after⟩

end PaddleLink
