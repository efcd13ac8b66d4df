import TraceHeaders.Proofs.Settings.Merging
import TraceHeaders.Proofs.Snapshot
import TraceHeaders.Settings.Decode
import Mathlib.Data.List.Forall2

namespace TraceHeaders

section Traversal

variable {α β ε : Type} {f : α → Except ε β} {xs : List α}

lemma mapM_eq_ok_iff {R : α → β → Prop} (hR : ∀ x ∈ xs, ∀ y, f x = .ok y ↔ R x y) {ys : List β} :
    xs.mapM f = .ok ys ↔ List.Forall₂ R xs ys := by
  induction xs generalizing ys with
  | nil =>
    rw [List.forall₂_nil_left_iff]
    constructor
    · rintro ⟨⟩
      rfl
    · rintro rfl
      rfl
  | cons x xs ih =>
    obtain ⟨hx, hR⟩ := List.forall_mem_cons.mp hR
    rw [List.mapM_cons, List.forall₂_cons_left_iff]
    simp only [← hx, ← ih hR]
    cases f x with
    | error e =>
      constructor
      · rintro ⟨⟩
      · rintro ⟨_, _, ⟨⟩, _⟩
    | ok y =>
      cases xs.mapM f with
      | error e =>
        constructor
        · rintro ⟨⟩
        · rintro ⟨_, _, _, ⟨⟩, _⟩
      | ok zs =>
        constructor
        · rintro ⟨⟩
          exact ⟨y, zs, rfl, rfl, rfl⟩
        · rintro ⟨_, _, ⟨⟩, ⟨⟩, rfl⟩
          rfl

lemma mapM_eq_error_iff {e : ε} :
    xs.mapM f = .error e ↔ ∃ before x after, xs = before ++ x :: after ∧
      (∀ b ∈ before, ∃ y, f b = .ok y) ∧ f x = .error e := by
  induction xs with
  | nil =>
    constructor
    · rintro ⟨⟩
    · rintro ⟨before, x, after, h, -⟩
      exact absurd h.symm (List.append_ne_nil_of_right_ne_nil before (List.cons_ne_nil x after))
  | cons x xs ih =>
    rw [List.mapM_cons]
    cases hx : f x with
    | error d =>
      -- No other failure is the first one, since what stands before that succeeds.
      constructor
      · rintro ⟨⟩
        exact ⟨[], x, xs, rfl, nofun, hx⟩
      · rintro ⟨_ | ⟨b, before⟩, z, after, h, hb, hz⟩
        · cases h
          rw [hz] at hx
          cases hx
          rfl
        · cases h
          obtain ⟨y, hy⟩ := hb x List.mem_cons_self
          rw [hy] at hx
          cases hx
    | ok y =>
      have hm : (Except.ok y >>= fun y => do return y :: (← xs.mapM f)) = .error e ↔
          xs.mapM f = .error e := by
        cases xs.mapM f with
        | error d => exact Iff.rfl
        | ok zs => exact ⟨nofun, nofun⟩
      refine hm.trans (ih.trans ?_)
      constructor
      · rintro ⟨before, z, after, rfl, hb, hz⟩
        exact ⟨x :: before, z, after, rfl, List.forall_mem_cons.mpr ⟨⟨y, hx⟩, hb⟩, hz⟩
      · rintro ⟨_ | ⟨b, before⟩, z, after, h, hb, hz⟩
        · cases h
          rw [hz] at hx
          cases hx
        · cases h
          exact ⟨before, z, after, rfl, (List.forall_mem_cons.mp hb).2, hz⟩

lemma exists_forall₂_iff {R : α → β → Prop} :
    (∃ ys, List.Forall₂ R xs ys) ↔ ∀ x ∈ xs, ∃ y, R x y := by
  induction xs with
  | nil => exact iff_of_true ⟨[], .nil⟩ nofun
  | cons x xs ih =>
    rw [List.forall_mem_cons, ← ih]
    constructor
    · rintro ⟨_, h⟩
      cases h with
      | cons hy hys => exact ⟨⟨_, hy⟩, _, hys⟩
    · rintro ⟨⟨y, hy⟩, ys, hys⟩
      exact ⟨y :: ys, .cons hy hys⟩

lemma mapError_eq_ok_iff {δ : Type} {r : Except ε α} {f : ε → δ} {x : α} :
    r.mapError f = .ok x ↔ r = .ok x := by
  cases r with
  | ok y => rw [Except.mapError, Except.ok.injEq, Except.ok.injEq]
  | error e => exact ⟨nofun, nofun⟩

lemma mapError_eq_error_iff {δ : Type} {r : Except ε α} {f : ε → δ} {d : δ} :
    r.mapError f = .error d ↔ ∃ e, r = .error e ∧ f e = d := by
  cases r with
  | ok y => exact ⟨nofun, nofun⟩
  | error e =>
    constructor
    · rintro ⟨⟩
      exact ⟨e, rfl, rfl⟩
    · rintro ⟨_, ⟨⟩, rfl⟩
      rfl

end Traversal

namespace Text

variable {l r : Text}

lemma trim_append_blank (hl : ∀ c ∈ l, isBlank c) (hr : ∀ c ∈ r, isBlank c) (t : Text) :
    trim (l ++ t ++ r) = trim t := by
  have hs : trimRight r = [] := List.rdropWhile_eq_nil_iff.mpr hr
  have ht : ∀ s : Text, trimRight (s ++ r) = trimRight s := by
    intro s
    induction s with
    | nil => exact hs
    | cons c s ih => rw [List.cons_append, trimRight_cons, trimRight_cons, ih]
  rw [← trim_trimRight, ht, trim_trimRight, ← trim_trimLeft, trimLeft,
    List.dropWhile_append_of_pos hl, ← trimLeft, trim_trimLeft]

lemma trimmed?_blank (hl : ∀ c ∈ l, isBlank c) : trimmed? l = none := by
  have ht := trim_append_blank hl (r := []) nofun []
  rw [List.append_nil, List.append_nil] at ht
  exact if_pos ht

lemma isBlank_toLower (c : Char) : isBlank c.toLower = isBlank c := by
  by_cases hc : c.toNat < 0x80
  · exact of_ascii (p := fun c => isBlank c.toLower = isBlank c) (by decide) hc
  · rw [toLower_of_le (Nat.le_of_not_lt hc)]

end Text

namespace Style

variable {t e u : Text} {s : Style} {elements : List Text} {styles : List Style}

def spellings : Style → List Text
  | b3single => [b3single.name, "b3".toList, "b3 single header".toList]
  | s => [s.name]

def Known (e : Text) : Prop := ∃ s : Style, Text.lower e ∈ s.spellings

lemma lookup_names : names.lookup t = some s ↔ t ∈ s.spellings := by
  have hn : (names.map (·.1)).Nodup := by decide
  have hm : (t, s) ∈ names ↔ t ∈ s.spellings := by
    cases s <;> simp [names, spellings]
  rw [lookup_eq_find?, find?_key_eq_some_iff hn, hm]

lemma ofText_eq_ok_iff : ofText t = .ok s ↔ Text.lower (Text.trim t) ∈ s.spellings := by
  rw [← lookup_names, ofText]
  cases names.lookup (Text.lower (Text.trim t)) with
  | some r => rw [Except.ok.injEq, Option.some.injEq]
  | none => exact ⟨nofun, nofun⟩

lemma ofText_eq_error_iff {x : Unknown} :
    ofText t = .error x ↔ ¬ Known (Text.trim t) ∧ x = ⟨t⟩ := by
  simp only [Known, ← lookup_names, ofText]
  cases names.lookup (Text.lower (Text.trim t)) with
  | some r => exact ⟨nofun, fun h => absurd ⟨r, rfl⟩ h.1⟩
  | none =>
    rw [Except.error.injEq, eq_comm]
    exact (and_iff_right nofun).symm

/-- Texts in which styles are named one after the other, in any case of the letters and with blanks
around each name. Blank texts may stand between them. -/
inductive Spells : List Text → List Style → Prop
  | nil : Spells [] []
  | blank {l : Text} {elements : List Text} {styles : List Style} (hl : ∀ c ∈ l, Text.isBlank c)
      (h : Spells elements styles) : Spells (l :: elements) styles
  | name {l u r : Text} {s : Style} {elements : List Text} {styles : List Style}
      (hl : ∀ c ∈ l, Text.isBlank c) (hu : Text.asciiLower u = s.name)
      (hr : ∀ c ∈ r, Text.isBlank c) (h : Spells elements styles) :
      Spells ((l ++ u ++ r) :: elements) (s :: styles)

lemma spells_names (styles : List Style) : Spells (styles.map name) styles := by
  induction styles with
  | nil => exact .nil
  | cons s styles ih =>
    have hn : Text.asciiLower s.name = s.name := by cases s <;> rfl
    have h := Spells.name (l := []) (r := []) nofun hn nofun ih
    rwa [List.nil_append, List.append_nil] at h

lemma name_chars (hu : Text.asciiLower u = s.name) :
    ∀ c ∈ u, c.toNat < 0x80 ∧ Text.isBlank c = false ∧ c ≠ ',' := by
  have hs : ∀ c ∈ s.name, c.toNat < 0x80 ∧ Text.isBlank c = false ∧ c ≠ ',' := by
    cases s <;> exact Text.forall_mem_of_all (by decide)
  intro c hc
  have hl : c.toLower ∈ s.name := by
    rw [← hu]
    exact List.mem_map_of_mem hc
  obtain ⟨ha, hb, hn⟩ := hs _ hl
  refine ⟨(toNat_toLower_lt_iff c).mp ha, Text.isBlank_toLower c ▸ hb, ?_⟩
  rintro rfl
  exact hn rfl

lemma trimmed?_name {l r : Text} (hl : ∀ c ∈ l, Text.isBlank c)
    (hu : Text.asciiLower u = s.name) (hr : ∀ c ∈ r, Text.isBlank c) :
    Text.trimmed? (l ++ u ++ r) = some u := by
  rw [Text.trimmed?_eq_some_iff, Text.trim_append_blank hl hr,
    Text.trim_of_not_blank fun c hc => (name_chars hu c hc).2.1]
  refine ⟨rfl, ?_⟩
  rintro rfl
  revert hu
  cases s <;> decide

lemma ofText_of_asciiLower (hu : Text.asciiLower u = s.name) : ofText u = .ok s := by
  have hn : s.name ∈ s.spellings := by cases s <;> exact List.mem_cons_self
  have hl : Text.lower u = s.name :=
    (Text.lower_of_ascii fun c hc => (name_chars hu c hc).1).trans hu
  rwa [ofText_eq_ok_iff, Text.trim_of_not_blank fun c hc => (name_chars hu c hc).2.1, hl]

lemma Spells.comma_notMem (h : Spells elements styles) : ∀ e ∈ elements, ',' ∉ e := by
  have hb : ∀ l : Text, (∀ c ∈ l, Text.isBlank c) → ',' ∉ l := fun l hl hc => nomatch hl ',' hc
  induction h with
  | nil => exact nofun
  | blank hl _ ih => exact List.forall_mem_cons.mpr ⟨hb _ hl, ih⟩
  | name hl hu hr _ ih =>
    refine List.forall_mem_cons.mpr ⟨?_, ih⟩
    rw [List.mem_append, List.mem_append, not_or, not_or]
    exact ⟨⟨hb _ hl, fun hc => (name_chars hu _ hc).2.2 rfl⟩, hb _ hr⟩

lemma Spells.mapM_ofText (h : Spells elements styles) :
    (elements.filterMap Text.trimmed?).mapM ofText = .ok styles := by
  rw [mapM_eq_ok_iff fun _ _ _ => Iff.rfl]
  induction h with
  | nil => exact .nil
  | blank hl _ ih => rwa [List.filterMap_cons_none (Text.trimmed?_blank hl)]
  | name hl hu hr _ ih =>
    rw [List.filterMap_cons_some (trimmed?_name hl hu hr)]
    exact .cons (ofText_of_asciiLower hu) ih

lemma listOfText_of_spells (h : Spells elements styles) :
    listOfText ([','].intercalate elements) = .ok styles := by
  rw [listOfText, Text.commaElements_intercalate h.comma_notMem]
  exact h.mapM_ofText

lemma listOfText_eq_ok_iff :
    listOfText t = .ok styles ↔
      List.Forall₂ (fun e s => Text.lower e ∈ s.spellings) (Text.commaElements t) styles := by
  refine mapM_eq_ok_iff fun e he s => ?_
  rw [ofText_eq_ok_iff, Text.trim_of_mem_commaElements he]

lemma listOfText_eq_error_iff {x : Unknown} :
    listOfText t = .error x ↔ ∃ before e after, Text.commaElements t = before ++ e :: after ∧
      (∀ b ∈ before, Known b) ∧ ¬ Known e ∧ x = ⟨e⟩ := by
  rw [listOfText, mapM_eq_error_iff]
  refine exists_congr fun before => exists_congr fun e => exists_congr fun after =>
    and_congr_right fun ht => ?_
  have hm : ∀ b ∈ before ++ e :: after, Text.trim b = b :=
    fun b hb => Text.trim_of_mem_commaElements (ht ▸ hb)
  obtain ⟨hb, he⟩ := List.forall_mem_append.mp hm
  rw [ofText_eq_error_iff, he e List.mem_cons_self]
  refine and_congr_left fun _ => forall₂_congr fun b hmem => exists_congr fun s => ?_
  rw [ofText_eq_ok_iff, hb b hmem]

end Style

namespace Settings

open Style

variable {t : Text} {elements : List Text} {styles : List Style}

lemma stylesOf_text_eq_ok_iff : stylesOf (.text t) = .ok styles ↔ listOfText t = .ok styles :=
  mapError_eq_ok_iff (f := ValueFault.unknownStyle) (r := listOfText t)

lemma stylesOf_text_eq_error_iff {x : ValueFault} :
    stylesOf (.text t) = .error x ↔ ∃ u, listOfText t = .error u ∧ .unknownStyle u = x :=
  mapError_eq_error_iff (f := ValueFault.unknownStyle) (r := listOfText t)

lemma message_unknownStyle (d : Dialect) (e : Text) :
    (ValueFault.unknownStyle ⟨e⟩).message d =
      "Failed to deserialize propagation style: Unknown trace propagation style: ".toList ++ e := by
  have h : "Failed to deserialize propagation style: ".toList ++
      "Unknown trace propagation style: ".toList =
        "Failed to deserialize propagation style: Unknown trace propagation style: ".toList := by
    decide
  rw [← h, List.append_assoc]
  rfl

/-- A text is read exactly if each element that is not blank is a name of a style in lower case, and
else the first one that is not is reported, in its own letters. -/
theorem stylesOf_spells (h : Spells elements styles) (t : Text) :
    stylesOf (.text ([','].intercalate elements)) = .ok styles ∧
      stylesOf (.text ([','].intercalate (styles.map name))) = .ok styles ∧
      (∀ ss, stylesOf (.text t) = .ok ss ↔
        List.Forall₂ (fun e s => Text.lower e ∈ s.spellings) (Text.commaElements t) ss) ∧
      ((∃ ss, stylesOf (.text t) = .ok ss) ↔ ∀ e ∈ Text.commaElements t, Known e) ∧
      (∀ x, stylesOf (.text t) = .error x ↔ ∃ before e after,
        Text.commaElements t = before ++ e :: after ∧ (∀ b ∈ before, Known b) ∧ ¬ Known e ∧
          x = .unknownStyle ⟨e⟩) ∧
      ∀ d e, (ValueFault.unknownStyle ⟨e⟩).message d =
        "Failed to deserialize propagation style: Unknown trace propagation style: ".toList ++ e := by
  have ho : ∀ ss, stylesOf (.text t) = .ok ss ↔
      List.Forall₂ (fun e s => Text.lower e ∈ s.spellings) (Text.commaElements t) ss :=
    fun ss => stylesOf_text_eq_ok_iff.trans listOfText_eq_ok_iff
  refine ⟨stylesOf_text_eq_ok_iff.mpr (listOfText_of_spells h),
    stylesOf_text_eq_ok_iff.mpr (listOfText_of_spells (spells_names styles)), ho, ?_, fun x => ?_,
    message_unknownStyle⟩
  · simp only [ho]
    exact exists_forall₂_iff
  · rw [stylesOf_text_eq_error_iff]
    simp only [listOfText_eq_error_iff]
    constructor
    · rintro ⟨_, ⟨before, e, after, ht, hb, he, rfl⟩, rfl⟩
      exact ⟨before, e, after, ht, hb, he, rfl⟩
    · rintro ⟨before, e, after, ht, hb, he, rfl⟩
      exact ⟨_, ⟨before, e, after, ht, hb, he, rfl⟩, rfl⟩

def decorated : List Text :=
  ["  ".toList ++ "DataDog".toList ++ "\t".toList, " ".toList, [] ++ "xray".toList ++ [],
    "\u00A0".toList ++ "XRay".toList ++ []]

theorem stylesOf_spells_decorated :
    Spells decorated [.datadog, .xray, .xray] ∧
      stylesOf (.text "  DataDog\t, ,xray,\u00A0XRay".toList) = .ok [.datadog, .xray, .xray] ∧
      stylesOf (.text "b3 Single Header, Zipkin ,jaeger".toList) =
        .error (.unknownStyle ⟨"Zipkin".toList⟩) := by
  have hb : ∀ l : Text, l.all Text.isBlank → ∀ c ∈ l, Text.isBlank c :=
    fun l => List.all_eq_true.mp
  have h : Spells decorated [.datadog, .xray, .xray] := by
    refine .name (hb _ ?_) ?_ (hb _ ?_) (.blank (hb _ ?_) (.name (hb _ ?_) ?_ (hb _ ?_)
      (.name (hb _ ?_) ?_ (hb _ ?_) .nil)))
    all_goals decide
  obtain ⟨hs, -, -, -, he, -⟩ := stylesOf_spells h "b3 Single Header, Zipkin ,jaeger".toList
  have hj : [','].intercalate decorated = "  DataDog\t, ,xray,\u00A0XRay".toList := by decide
  have hz : ¬ Known "Zipkin".toList := by
    rintro ⟨s, hs⟩
    revert hs
    cases s <;> decide
  refine ⟨h, hj ▸ hs, (he _).mpr ⟨["b3 Single Header".toList], "Zipkin".toList,
    ["jaeger".toList], by decide, ?_, hz, rfl⟩⟩
  rw [List.forall_mem_singleton]
  exact ⟨.b3single, by decide⟩

end Settings

end TraceHeaders
