import TargetControl.Event
import TargetControl.Proofs.Codec
import TargetControl.Proofs.Instants

/-!
Events are read back from their data form.

The kind of event stands among the other members, which are kept as trees until it is known.  In the
form that is written it comes first.  Whatever the target is called, and whatever point in time a
text can give, the event recovers.
-/

namespace TargetControl

open Json (Draft Ending)
open Decode

namespace Event

abbrev codec : Codec Event := ⟨decode, toJson⟩

theorem decodeTime_valid {d : Draft} {t : Timestamp} (h : decodeTime d = .ok t) : t.Valid := by
  obtain ⟨s, -, h⟩ := ok_of_bind h
  split at h
  · next u hread =>
    cases h
    exact Timestamp.valid_of_read hread
  · cases h

theorem valid_epoch : Timestamp.epoch.Valid := ⟨rfl, by decide, by decide, nofun⟩

/-- A field of an event leaves its time alone, or puts one there that has been read. -/
def Timely (f : FieldReader Event) : Prop :=
  f.absent = none ∧ ∀ d e e', e.time.Valid → f.read d e = .ok e' → e'.time.Valid

theorem timely_timeField : Timely timeField := by
  refine ⟨rfl, fun d e e' _ h => ?_⟩
  obtain ⟨t, ht, h⟩ := ok_of_bind h
  cases h
  exact decodeTime_valid ht

theorem timely_targetField : Timely targetField := by
  refine ⟨rfl, fun d e e' he h => ?_⟩
  obtain ⟨_, -, h⟩ := ok_of_bind h
  cases h
  exact he

theorem timely_capabilityField (change : Capability → Change) : Timely (capabilityField change) := by
  refine ⟨rfl, fun d e e' he h => ?_⟩
  obtain ⟨_, -, h⟩ := ok_of_bind h
  cases h
  exact he

theorem timely_fromField : Timely fromField := by
  refine ⟨rfl, fun d e e' he h => ?_⟩
  obtain ⟨_, -, h⟩ := ok_of_bind h
  cases h
  exact he

theorem timely_toField : Timely toField := by
  refine ⟨rfl, fun d e e' he h => ?_⟩
  obtain ⟨_, -, h⟩ := ok_of_bind h
  cases h
  exact he

theorem timely_fields {kind : Change.Kind} {f : FieldReader Event} (hf : f ∈ fields kind) :
    Timely f := by
  cases kind with
  | state =>
    simp only [fields, List.mem_cons, List.not_mem_nil, or_false] at hf
    rcases hf with rfl | rfl | rfl | rfl
    · exact timely_targetField
    · exact timely_fromField
    · exact timely_toField
    · exact timely_timeField
  | attached | detached =>
    simp only [fields, List.mem_cons, List.not_mem_nil, or_false] at hf
    rcases hf with rfl | rfl | rfl
    · exact timely_targetField
    · exact timely_capabilityField _
    · exact timely_timeField

theorem keeps_time (kind : Change.Kind) :
    Keeps (fields kind) (fun _ => True) fun e => e.time.Valid := by
  refine ⟨fun f hf d s s' _ => (timely_fields hf).2 d s s', fun f hf fill habsent => ?_⟩
  rw [(timely_fields hf).1] at habsent
  cases habsent

theorem valid_ofTree {kind : Change.Kind} {tree : Json} {e : Event} (h : ofTree kind tree = .ok e) :
    e.time.Valid := by
  have hblank : (blank kind).time.Valid := by
    cases kind <;> exact valid_epoch
  exact (keeps_time kind).record (fun _ _ _ _ _ => trivial) (fun _ _ _ _ _ => trivial) hblank h

theorem valid_of_decode {d : Draft} {e : Event} (h : decode d = .ok e) : e.time.Valid := by
  rw [decode.eq_def] at h
  split at h
  · obtain ⟨⟨found, others⟩, -, h⟩ := ok_of_bind h
    split at h
    · cases h
    · exact valid_ofTree h
  · obtain ⟨_, -, h⟩ := ok_of_bind h
    cases h
  · obtain ⟨kind, -, h⟩ := ok_of_bind h
    obtain ⟨items, -, h⟩ := ok_of_bind h
    exact valid_ofTree h
  · exact absurd h (wrongType_ne_ok _ _ _)

theorem decodeMembers_ofMembers {members : List (String × Json)}
    (h : ∀ p ∈ members, p.1 ≠ typeKey ∧ p.2.depth ≤ Source.text.room) (kind : Option Change.Kind)
    (others : List (String × Json)) :
    decodeMembers (Draft.ofMembers members) .closed kind others =
      .ok (kind, others.reverse ++ members) := by
  induction members generalizing others with
  | nil =>
    rw [List.append_nil]
    rfl
  | cons member rest ih =>
    obtain ⟨key, value⟩ := member
    obtain ⟨hkey, hdepth⟩ := h _ List.mem_cons_self
    have hstep : decodeMembers (Draft.ofMembers ((key, value) :: rest)) .closed kind others =
        decodeMembers (Draft.ofMembers rest) .closed kind ((key, value) :: others) := by
      rw [Draft.ofMembers, decodeMembers.eq_def]
      simp only [Draft.key, lift, Except.mapError]
      show (if key = typeKey then _ else _) = _
      rw [if_neg hkey, Draft.read_ofJson value _ hdepth]
      rfl
    rw [hstep, ih fun p hp => h p (List.mem_cons_of_mem _ hp), List.reverse_cons,
      List.append_assoc]
    rfl

theorem decodeTime_string (s : String) :
    decodeTime (.string s) =
      match Timestamp.read? s.toList with
      | some t => .ok t
      | none => unfit .unreadable := rfl

theorem read_timeField {t : Timestamp} (h : t.Valid) (e : Event) :
    timeField.read (.string t.text) e = .ok { e with time := t } := by
  have htime : decodeTime (.string t.text) = .ok t := by
    rw [decodeTime_string, Timestamp.text, String.toList_ofList, h.read_write]
  rw [timeField]
  simp only [htime]
  rfl

theorem read_capabilityField (change : Capability → Change) (k : Capability) (e : Event) :
    (capabilityField change).read (.string k.name) e = .ok { e with change := change k } := by
  cases k <;> rfl

theorem read_fromField (a : State) (e : Event) :
    fromField.read (.string a.name) e = .ok { e with change := match e.change with
      | .state _ b => .state a b
      | c => c } := by
  cases a <;> rfl

theorem read_toField (b : State) (e : Event) :
    toField.read (.string b.name) e = .ok { e with change := match e.change with
      | .state a _ => .state a b
      | c => c } := by
  cases b <;> rfl

/-- The members of the data form behind the kind of event. -/
def others (e : Event) : List (String × Json) :=
  ("target", .string e.target) :: e.change.members ++ [("timestamp", .string e.time.text)]

theorem ofTree_others {e : Event} (h : e.time.Valid) :
    ofTree e.change.kind (.object e.others) = .ok e := by
  obtain ⟨target, change, time⟩ := e
  have htime : ∀ e, timeField.read (.string time.text) e = .ok { e with time := time } :=
    read_timeField h
  cases change with
  | state a b =>
    rw [ofTree, Draft.ofJson]
    simp only [others, Change.members, Draft.ofMembers, List.cons_append, List.nil_append, record,
      Draft.ofJson]
    rw [readMembers_field targetField rfl rfl rfl,
      readMembers_field fromField rfl rfl (read_fromField a _),
      readMembers_field toField rfl rfl (read_toField b _),
      readMembers_field timeField rfl rfl (htime _)]
    rfl
  | attached k =>
    rw [ofTree, Draft.ofJson]
    simp only [others, Change.members, Draft.ofMembers, List.cons_append, List.nil_append, record,
      Draft.ofJson]
    rw [readMembers_field targetField rfl rfl rfl,
      readMembers_field (capabilityField .attached) rfl rfl (read_capabilityField .attached k _),
      readMembers_field timeField rfl rfl (htime _)]
    rfl
  | detached k =>
    rw [ofTree, Draft.ofJson]
    simp only [others, Change.members, Draft.ofMembers, List.cons_append, List.nil_append, record,
      Draft.ofJson]
    rw [readMembers_field targetField rfl rfl rfl,
      readMembers_field (capabilityField .detached) rfl rfl (read_capabilityField .detached k _),
      readMembers_field timeField rfl rfl (htime _)]
    rfl

theorem typeKey_not_mem (e : Event) : typeKey ∉ Keyed.keys e.others := by
  obtain ⟨target, change, time⟩ := e
  cases change with
  | state a b =>
    show typeKey ∉ ["target", "from", "to", "timestamp"]
    decide
  | attached k | detached k =>
    show typeKey ∉ ["target", "protocol", "timestamp"]
    decide

theorem text_of_mem_others {e : Event} {p : String × Json} (hp : p ∈ e.others) :
    ∃ s, p.2 = .string s := by
  obtain ⟨target, change, time⟩ := e
  cases change with
  | state a b =>
    simp only [others, Change.members, List.cons_append, List.nil_append, List.mem_cons,
      List.not_mem_nil, or_false] at hp
    rcases hp with rfl | rfl | rfl | rfl <;> exact ⟨_, rfl⟩
  | attached k | detached k =>
    simp only [others, Change.members, List.cons_append, List.nil_append, List.mem_cons,
      List.not_mem_nil, or_false] at hp
    rcases hp with rfl | rfl | rfl <;> exact ⟨_, rfl⟩

theorem toJson_eq (e : Event) : e.toJson = .object ((typeKey, .string e.type) :: e.others) := rfl

theorem decode_toJson {e : Event} (h : e.time.Valid) : decode (.ofJson e.toJson) = .ok e := by
  have hkind : identifier Change.Kind.name Change.Kind.all (.string e.type) = .ok e.change.kind := by
    rw [type]
    cases e.change.kind <;> rfl
  have hshallow : ∀ p ∈ e.others, p.1 ≠ typeKey ∧ p.2.depth ≤ Source.text.room := by
    intro p hp
    obtain ⟨s, hs⟩ := text_of_mem_others hp
    rw [hs]
    exact ⟨fun hkey => e.typeKey_not_mem (hkey ▸ List.mem_map_of_mem hp), Nat.zero_le _⟩
  have hothers := decodeMembers_ofMembers hshallow (some e.change.kind) []
  have hmembers : decodeMembers
      ((.string typeKey, .string e.type) :: Draft.ofMembers e.others) .closed none [] =
      .ok (some e.change.kind, e.others) := by
    rw [decodeMembers.eq_def]
    show (do
      let found ← identifier Change.Kind.name Change.Kind.all (.string e.type)
      decodeMembers (Draft.ofMembers e.others) .closed (some found) []) = _
    rw [hkind]
    exact hothers
  rw [toJson_eq, Draft.ofJson, Draft.ofMembers, decode, Draft.ofJson, hmembers]
  exact ofTree_others h

theorem whole_toJson (e : Event) : ∀ n ∈ e.toJson.numbers, n.IsWhole := by
  rw [toJson_eq]
  refine whole_object fun p hp => ?_
  rcases List.mem_cons.mp hp with rfl | hp
  · exact fun _ hn => nomatch hn
  · obtain ⟨s, hs⟩ := text_of_mem_others hp
    rw [hs]
    exact fun _ hn => nomatch hn

theorem depth_toJson (e : Event) : e.toJson.depth ≤ 1 := by
  rw [toJson_eq]
  refine Nat.succ_le_succ (Json.depthOf_le.mpr fun p hp => ?_)
  rcases List.mem_cons.mp hp with rfl | hp
  · exact Nat.le_refl _
  · obtain ⟨s, hs⟩ := text_of_mem_others hp
    rw [hs]
    exact Nat.le_refl _

/-- An event is read back from its own text, whatever its target is called. -/
theorem recovers {e : Event} (h : e.time.Valid) : codec.Recovers e :=
  Codec.recovers_of_decode e.whole_toJson (decode_toJson h)

end Event

end TargetControl
