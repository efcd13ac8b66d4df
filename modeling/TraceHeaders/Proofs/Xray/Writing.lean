import TraceHeaders.Proofs.Text.Numeral
import TraceHeaders.Proofs.Xray.Reading

namespace TraceHeaders.Xray

section Fields

lemma fields_join (start : Text) (fs : List Text) :
    fields (Fields.join start fs) = fields start ++ fs.flatMap fields := by
  rw [fields, Fields.splitOn_join, List.filterMap_append, List.filterMap_flatMap]
  rfl

lemma fields_of_not_mem {t : Text} (h : ';' ∉ t) :
    fields t = ((Text.cut? '=' t).map fun e => (Text.trim e.1, Text.trim e.2)).toList := by
  rw [← Text.map_trim_cut?_trim (by decide), fields, List.splitOn_eq_singleton h]
  cases hc : Text.cut? '=' (Text.trim t) <;> simp [hc]

lemma fields_entry {k x : Text} (hk : ';' ∉ k) (hx : ';' ∉ x) :
    fields (k ++ '=' :: x) =
      [(Text.trim (k.takeWhile (· ≠ '=')),
        Text.trim (k.dropWhile (· ≠ '=') ++ '=' :: x).tail)] := by
  have h : ';' ∉ k ++ '=' :: x := by simp [hk, hx]
  rw [fields_of_not_mem h, Text.cut?_append_cons]
  rfl

lemma fields_pair {k x : Text} (hk : ';' ∉ k) (he : '=' ∉ k) (hx : ';' ∉ x) :
    fields (k ++ '=' :: x) = [(Text.trim k, Text.trim x)] := by
  have h : ';' ∉ k ++ '=' :: x := by simp [hk, hx]
  rw [fields_of_not_mem h, Text.cut?_append_of_not_mem he]
  simp [Text.cut?]

end Fields

section Identity

def rootStart : Text := "1-00000000-00000000".toList

def rootText (w : UInt64) : Text := rootStart ++ Text.hexWord w

lemma of_mem_rootText {w : UInt64} {ch : Char} (h : ch ∈ rootText w) :
    Text.isBlank ch = false ∧ ch ≠ ';' := by
  rw [rootText, List.mem_append] at h
  obtain h | h := h
  · revert ch
    apply Text.forall_mem_of_all
    decide
  · refine ⟨Text.not_blank_of_isLowerHexDigit (Text.mem_hexPadded h), ?_⟩
    rintro rfl
    exact Text.not_mem_hexPadded (by decide) 16 _ h

lemma trim_rootText (w : UInt64) : Text.trim (rootText w) = rootText w :=
  Text.trim_of_not_blank fun _ h => (of_mem_rootText h).1

lemma isHex_append {m n : Nat} {s t : Text} (hs : isHex m s) (ht : isHex n t) :
    isHex (m + n) (s ++ t) := by
  simp only [isHex, Bool.and_eq_true, decide_eq_true_eq] at hs ht ⊢
  rw [List.length_append, List.all_append, hs.1, ht.1, hs.2, ht.2]
  exact ⟨rfl, rfl⟩

lemma not_mem_of_isHex {n : Nat} {t : Text} (h : isHex n t) : '-' ∉ t := by
  rw [isHex, Bool.and_eq_true, List.all_eq_true] at h
  exact fun hm => absurd (h.2 _ hm) (by decide)

lemma root?_append {x : Text} (h : isHex 16 x) :
    root? (rootStart ++ x) = (Text.hex? x).map .ofNat := by
  have hz : isHex 8 "00000000".toList := by decide
  have hu : isHex 24 ("00000000".toList ++ x) := isHex_append hz h
  have hi : ['-'].intercalate [['1'], "00000000".toList, "00000000".toList ++ x] =
      rootStart ++ x := by
    rw [List.intercalate_cons_cons, List.intercalate_cons_cons, List.intercalate_singleton]
    rfl
  have hs : (rootStart ++ x).splitOn '-' =
      [['1'], "00000000".toList, "00000000".toList ++ x] := by
    rw [← hi]
    refine List.splitOn_intercalate '-' ?_ (List.cons_ne_nil _ _)
    simp only [List.forall_mem_cons]
    exact ⟨by decide, not_mem_of_isHex hz, not_mem_of_isHex hu, fun _ hp => nomatch hp⟩
  have hd : ("00000000".toList ++ x).drop 8 = x := List.drop_left' rfl
  rw [root?, hs]
  simp only [hz, hu, hd, Bool.and_self, if_true]

lemma isHex_hexWord (w : UInt64) : isHex 16 (Text.hexWord w) :=
  Text.formed_hexPadded 16 _

lemma root?_rootText (w : UInt64) : root? (rootText w) = some w := by
  rw [rootText, root?_append (isHex_hexWord w), Text.hex?_hexWord, Option.map_some,
    UInt64.ofNat_toNat]

lemma parent?_hexWord (w : UInt64) : parent? (Text.hexWord w) = some w := by
  rw [parent?, if_pos (isHex_hexWord w), Text.hex?_hexWord, Option.map_some, UInt64.ofNat_toNat]

variable (c : Context)

def identityFields : List (Text × Text) :=
  [(rootKey, rootText c.traceId.low), (parentKey, Text.hexWord c.spanId)] ++
    (c.sampling.isSampled.map fun b => (sampledKey, [if b then '1' else '0'])).toList

lemma identity_eq :
    identity c =
      Fields.join (rootKey ++ '=' :: rootText c.traceId.low)
        ((parentKey ++ '=' :: Text.hexWord c.spanId) ::
          (c.sampling.isSampled.map fun b => sampledKey ++ ['=', if b then '1' else '0']).toList) := by
  unfold identity rootText rootStart
  generalize Text.hexWord c.traceId.low = x
  generalize Text.hexWord c.spanId = y
  cases c.sampling.isSampled <;> simp [Fields.join]

lemma fields_identity : fields (identity c) = identityFields c := by
  have hr : fields (rootKey ++ '=' :: rootText c.traceId.low) =
      [(rootKey, rootText c.traceId.low)] := by
    have hn : ';' ∉ rootText c.traceId.low := fun h => (of_mem_rootText h).2 rfl
    rw [fields_pair (by decide) (by decide) hn, trim_rootText]
    rfl
  have hp : fields (parentKey ++ '=' :: Text.hexWord c.spanId) =
      [(parentKey, Text.hexWord c.spanId)] := by
    have hn : ';' ∉ Text.hexWord c.spanId := Text.not_mem_hexPadded (by decide) 16 _
    rw [fields_pair (by decide) (by decide) hn, Text.trim_hexWord]
    rfl
  rw [identity_eq, fields_join, hr, List.flatMap_cons, hp, identityFields]
  rcases c.sampling.isSampled with _ | b
  · rfl
  · cases b <;> rfl

def writtenFields : List Text :=
  (optionalFields c).take (Fields.fitting lengthLimit (Text.byteLength (identity c)) (optionalFields c))

def strayFields : List (Text × Text) := (writtenFields c).flatMap fields

lemma fields_header : fields (header c) = identityFields c ++ strayFields c := by
  rw [header, Fields.append, fields_join, fields_identity]
  rfl

end Identity

end TraceHeaders.Xray
