import TraceHeaders.Proofs.Grammar.TraceParent
import TraceHeaders.Proofs.TraceState.Reading

/-! Members of a `tracestate` that are spread over its headers in different ways. -/

namespace TraceHeaders

namespace TraceState

variable {values others : List Text} {text : Text}

def listed (values : List Text) : List Text :=
  ((values.flatMap (·.splitOn ',')).map Text.trim).filter (· ≠ [])

def Printable (text : Text) : Prop := ∀ ch ∈ text, 0x20 ≤ ch.toNat ∧ ch.toNat ≤ 0x7E

lemma all_isPrintableAscii_iff : text.all isPrintableAscii ↔ Printable text := by
  rw [List.all_eq_true]
  refine forall₂_congr fun ch _ => ?_
  rw [isPrintableAscii, Bool.and_eq_true, decide_eq_true_eq, decide_eq_true_eq]

lemma members_eq_listed (values : List Text) : members values = listed values := by
  induction values with
  | nil => rfl
  | cons t ts ih =>
    rw [members, List.flatMap_cons, ← members, ih, Text.commaElements_eq, listed, listed,
      List.flatMap_cons, List.map_append, List.filter_append]

lemma listed_join (values : List Text) :
    listed [[','].intercalate (listed values)] = listed values := by
  rw [← members_eq_listed, ← members_eq_listed, members, List.flatMap_singleton,
    Text.commaElements_join fun m => of_mem_members]

lemma read_congr (h : listed values = listed others) : read values = read others := by
  rw [read, read, members_eq_listed, members_eq_listed, h]

lemma exists_value_read (h : Printable ([','].intercalate (listed values))) :
    ∃ own, (read values).value = some ([','].intercalate (listed values), own) := by
  rw [← all_isPrintableAscii_iff, ← members_eq_listed] at h
  rw [← members_eq_listed]
  simp only [read, h]
  cases own? (members values) with
  | none => exact ⟨{}, rfl⟩
  | some t => exact ⟨_, rfl⟩

lemma value_read_eq_none (h : ¬ Printable ([','].intercalate (listed values))) :
    (read values).value = none := by
  rw [← all_isPrintableAscii_iff, ← members_eq_listed, Bool.not_eq_true] at h
  simp only [read, h]
  rfl

end TraceState

namespace TraceContext

open TraceState (listed Printable)

variable {hs es : List Header} {name : Text}

structure Regrouped (hs es : List Header) : Prop where
  beside : (hs.filter fun h => !Text.sameName h.1 stateName) =
    es.filter fun h => !Text.sameName h.1 stateName
  left_ne_nil : Snapshot.getAll ⟨hs⟩ stateName ≠ []
  right_ne_nil : Snapshot.getAll ⟨es⟩ stateName ≠ []
  listed_eq : listed (Snapshot.getAll ⟨hs⟩ stateName) = listed (Snapshot.getAll ⟨es⟩ stateName)

def joined (hs : List Header) : Text := [','].intercalate (listed (Snapshot.getAll ⟨hs⟩ stateName))

def Parented (hs : List Header) : Prop :=
  ∃ (header : Text) (p : TraceParent.Parts), Snapshot.get? ⟨hs⟩ parentName = some header ∧
    Text.trim header = p.text ∧ p.Grammatical

structure Keeps (c : Context) (text : Text) : Prop where
  printable : Printable text → c.tagSet.traceState = some text
  otherwise : ¬ Printable text → c.tagSet = {} ∧ c.origin = none

lemma getAll_filter (h : ¬ Text.sameName name stateName) :
    Snapshot.getAll ⟨hs.filter fun h => !Text.sameName h.1 stateName⟩ name =
      Snapshot.getAll ⟨hs⟩ name := by
  rw [Snapshot.getAll, Snapshot.getAll, List.filter_filter]
  refine congrArg (List.map Prod.snd) (List.filter_congr fun e _ => ?_)
  by_cases he : Text.sameName e.1 name
  · -- Names that agree with `name` cannot agree with `stateName` too.
    rw [he, Bool.true_and, Bool.not_eq_true']
    rw [Text.sameName, beq_iff_eq] at he h
    rwa [Text.sameName, he, beq_eq_false_iff_ne]
  · rw [Bool.not_eq_true] at he
    rw [he, Bool.false_and]

lemma readState_eq_read (h : Snapshot.getAll ⟨hs⟩ stateName ≠ []) :
    readState (Snapshot.view ⟨hs⟩) = TraceState.read (Snapshot.getAll ⟨hs⟩ stateName) := by
  rw [readState]
  split
  · rename_i hn
    exact absurd hn h
  · rfl

lemma exists_keeps (hp : Parented hs) (hn : Snapshot.getAll ⟨hs⟩ stateName ≠ []) :
    ∃ c, (extract (Snapshot.view ⟨hs⟩)).value = some (.complete c) ∧ Keeps c (joined hs) := by
  obtain ⟨header, p, hh, he, hg⟩ := hp
  obtain ⟨hf, -⟩ := TraceParent.Parts.grammatical_iff.mp hg
  obtain ⟨q, hq, -⟩ := TraceParent.exists_ofText_iff.mpr
    ⟨p, he, hg, hf.denotes_iff.mpr ⟨rfl, rfl⟩⟩
  have ht : ((Snapshot.view ⟨hs⟩).get? parentName).map Text.trim = some (Text.trim header) :=
    congrArg (Option.map Text.trim) hh
  refine ⟨_, extract_eq_complete_iff.mpr ⟨_, q, ht, hq, rfl⟩, fun hp => ?_, fun hp => ?_⟩
  · obtain ⟨own, hr⟩ := TraceState.exists_value_read hp
    rw [readState_eq_read hn, hr]
    rfl
  · rw [readState_eq_read hn, TraceState.value_read_eq_none hp]
    exact ⟨rfl, rfl⟩

lemma joined_join (h : Snapshot.getAll ⟨es⟩ stateName = [joined hs]) : joined es = joined hs := by
  rw [joined, h, joined, TraceState.listed_join]

namespace Regrouped

lemma get?_eq (h : Regrouped hs es) (hn : ¬ Text.sameName name stateName) :
    Snapshot.get? ⟨hs⟩ name = Snapshot.get? ⟨es⟩ name := by
  rw [Snapshot.get?_eq_head?, Snapshot.get?_eq_head?, ← getAll_filter hn, h.beside, getAll_filter hn]

lemma collect_eq (h : Regrouped hs es) :
    RequestTags.collect (Snapshot.view ⟨hs⟩) = RequestTags.collect (Snapshot.view ⟨es⟩) := by
  have hn : ∀ name ∈ RequestTags.wholeHeaders ++ RequestTags.firstHopHeaders,
      ¬ Text.sameName name stateName := by decide
  exact RequestTags.collect_congr fun name hm => h.get?_eq (hn name hm)

lemma readState_eq (h : Regrouped hs es) :
    readState (Snapshot.view ⟨hs⟩) = readState (Snapshot.view ⟨es⟩) := by
  rw [readState_eq_read h.left_ne_nil, readState_eq_read h.right_ne_nil,
    TraceState.read_congr h.listed_eq]

end Regrouped

/-- How the members are spread over headers does not matter. What a valid parent keeps is the members
as one text, which is kept again when it comes in one header. -/
theorem extract_regrouped {hs es : List Header} (h : Regrouped hs es) :
    extract (Snapshot.view ⟨hs⟩) = extract (Snapshot.view ⟨es⟩) ∧
      (Parented hs → ∃ c, (extract (Snapshot.view ⟨hs⟩)).value = some (.complete c) ∧
        Keeps c (joined hs)) ∧
      ∀ fs, Parented fs → Snapshot.getAll ⟨fs⟩ stateName = [joined hs] →
        ∃ c, (extract (Snapshot.view ⟨fs⟩)).value = some (.complete c) ∧ Keeps c (joined hs) := by
  refine ⟨?_, fun hp => exists_keeps hp h.left_ne_nil, fun fs hp hf => ?_⟩
  · have hn : ¬ Text.sameName parentName stateName := by decide
    exact extract_congr (h.get?_eq hn) h.readState_eq h.collect_eq
  · rw [← joined_join hf]
    refine exists_keeps hp ?_
    rw [hf]
    exact List.cons_ne_nil _ _

def parentHeader : Header :=
  (parentName, " 00-80f198ee56343ba864fe8b2a57d3eff7-00f067aa0ba902b7-01".toList)

def scattered : List Header :=
  [("Tracestate".toList, " a=1,,".toList), parentHeader, ("TRACESTATE".toList, "\t ".toList),
    (stateName, "dd=s:2;o:rum , b=2".toList)]

def gathered : List Header := [parentHeader, (stateName, "a=1,dd=s:2;o:rum,b=2".toList)]

set_option maxRecDepth 10000 in
theorem extract_regrouped_scattered :
    Regrouped scattered gathered ∧ Parented scattered ∧ Parented gathered ∧
      joined scattered = "a=1,dd=s:2;o:rum,b=2".toList ∧
      extract (Snapshot.view ⟨scattered⟩) = extract (Snapshot.view ⟨gathered⟩) ∧
      (∃ c, (extract (Snapshot.view ⟨scattered⟩)).value = some (.complete c) ∧
        Keeps c (joined scattered)) ∧
      ∃ c, (extract (Snapshot.view ⟨gathered⟩)).value = some (.complete c) ∧
        c.tagSet.traceState = some (joined scattered) := by
  have hr : Regrouped scattered gathered := ⟨by decide, by decide, by decide, by decide⟩
  have hg : TraceParent.Parts.Grammatical ⟨"00".toList, "80f198ee56343ba864fe8b2a57d3eff7".toList,
      "00f067aa0ba902b7".toList, "01".toList, []⟩ :=
    { version := ⟨rfl, Text.forall_mem_of_all (by decide)⟩
      version_ne := by decide
      traceId := ⟨rfl, Text.forall_mem_of_all (by decide), '8', by decide, by decide⟩
      spanId := ⟨rfl, Text.forall_mem_of_all (by decide), 'f', by decide, by decide⟩
      flags := ⟨rfl, Text.forall_mem_of_all (by decide)⟩
      tail := .inl rfl }
  have hs : Parented scattered := ⟨parentHeader.2, _, by decide, by decide, hg⟩
  have hp : Parented gathered := ⟨parentHeader.2, _, by decide, by decide, hg⟩
  have hj : joined scattered = "a=1,dd=s:2;o:rum,b=2".toList := by decide
  obtain ⟨he, hk, hf⟩ := extract_regrouped hr
  obtain ⟨c, hc, hk'⟩ := hf gathered hp (by decide)
  have ht : Printable (joined scattered) := by
    rw [hj]
    exact Text.forall_mem_of_all (by decide)
  exact ⟨hr, hs, hp, hj, he, hk hs, c, hc, hk'.printable ht⟩

end TraceContext

end TraceHeaders
