import Mathlib

/-!
# Capping a burst of messages

The messages of a burst are trimmed, numbered and joined, and the merged text is cut after a number
of UTF-16 code units.  `capMergedChatUserTextParts` finds the cut in the separate messages by
counting labels and separators.  It counts a label for a single message too, which is shown without.
-/

namespace WispaceBot.CappedText

open List

/-- A text, as its UTF-16 code units. -/
abbrev Units := List ℕ

/-- The code units `String.prototype.trim` removes. -/
def isSpace (u : ℕ) : Bool :=
  [9, 10, 11, 12, 13, 0x20, 0xA0, 0x1680, 0x2028, 0x2029, 0x202F, 0x205F, 0x3000, 0xFEFF].contains
    u || decide (0x2000 ≤ u ∧ u ≤ 0x200A)

def units (s : String) : Units :=
  s.toList.map Char.toNat

def trimEnd (text : Units) : Units :=
  text.rdropWhile isSpace

def trim (text : Units) : Units :=
  trimEnd (text.dropWhile isSpace)

/-! ## Merging and cutting -/

/-- The texts that are not blank, trimmed. -/
def trimmedParts (texts : List Units) : List Units :=
  (texts.map trim).filter (· ≠ [])

/-- The label of a text, after the line break that separates it from the text before. -/
def heading (index : ℕ) : Units :=
  (if 0 < index then [10] else []) ++ units (toString (index + 1) ++ ". ")

def numbered : ℕ → List Units → Units
  | _, [] => []
  | index, part :: parts => heading index ++ part ++ numbered (index + 1) parts

def mergeChatUserTexts (texts : List Units) : Units :=
  match trimmedParts texts with
  | [part] => part
  | parts => numbered 0 parts

/-- `MERGED_TEXT_TRUNCATION_SUFFIX`. -/
def mergedTextTruncationSuffix : Units :=
  units "\n\n… (mình chỉ xử lý phần đầu tin nhắn của bạn nhé)"

def suffix (maxChars : ℕ) : Units :=
  if mergedTextTruncationSuffix.length < maxChars then mergedTextTruncationSuffix else [0x2026]

def budget (maxChars : ℕ) : ℕ :=
  max (maxChars - (suffix maxChars).length) 1

/-- The loop of `capMergedChatUserTextParts`, with the units that remain. -/
def bounded : ℕ → ℕ → List Units → List Units
  | _, _, [] => []
  | index, remaining, part :: parts =>
    let available := remaining - (heading index).length
    if available = 0 then []
    else
      let clipped := part.take available
      (if clipped = [] then [] else [clipped]) ++
        if clipped.length < part.length then []
        else bounded (index + 1) (available - clipped.length) parts

def capMergedChatUserTextParts (texts : List Units) (maxChars : ℕ) : List Units :=
  let parts := trimmedParts texts
  let merged := mergeChatUserTexts parts
  if merged = [] ∨ merged.length ≤ maxChars then parts else bounded 0 (budget maxChars) parts

def capMergedChatUserText (text : Units) (maxChars : ℕ) : Units :=
  let trimmed := trim text
  if trimmed = [] ∨ trimmed.length ≤ maxChars then trimmed
  else trimEnd (trimmed.take (budget maxChars)) ++ suffix maxChars

/-- What a beginning of the numbered texts shows of each of them, after its label. -/
def numberedPortions : ℕ → List Units → Units → List Units
  | _, [], _ => []
  | index, part :: parts, shown =>
    let rest := shown.drop (heading index).length
    (if rest.take part.length = [] then [] else [rest.take part.length]) ++
      numberedPortions (index + 1) parts (rest.drop part.length)

/-- The portions of the texts that occur in a beginning of their merge. -/
def portions (parts : List Units) (shown : Units) : List Units :=
  match parts with
  | [part] => [shown.take part.length].filter (· ≠ [])
  | parts => numberedPortions 0 parts shown

/-! ## Trimmed texts -/

variable {t a b : Units} {n i : ℕ}

@[simp] lemma trimEnd_trimEnd (t : Units) : trimEnd (trimEnd t) = trimEnd t :=
  rdropWhile_idempotent _ _

lemma length_trimEnd_take_le (t : Units) (n : ℕ) : (trimEnd (t.take n)).length ≤ n :=
  ( rdropWhile_prefix _ _).length_le.trans (length_take_le _ _)

lemma trimEnd_append (a b : Units) :
    trimEnd (a ++ b) = if trimEnd b = [] then trimEnd a else a ++ trimEnd b := by
  simp only [trimEnd, rdropWhile, reverse_append, dropWhile_append, List.isEmpty_iff,
    reverse_eq_nil_iff]
  split <;> simp

lemma trimEnd_append_eq (h : trimEnd a = a ∨ trimEnd b ≠ []) :
    trimEnd (a ++ b) = a ++ trimEnd b := by
  rw [trimEnd_append]
  split
  next hnil => rw [h.resolve_right (not_not.mpr hnil), hnil, append_nil]
  next => rfl

lemma trimEnd_append_eq_left_iff : trimEnd (a ++ b) = trimEnd a ↔ ∀ u ∈ b, isSpace u = true := by
  rw [trimEnd_append, ← rdropWhile_eq_nil_iff (p := isSpace)]
  split
  next hnil => exact iff_of_true rfl hnil
  next hne =>
    refine iff_of_false (fun heq => ?_) hne
    have hlen := congrArg length heq
    have hle := ( rdropWhile_prefix isSpace a).length_le
    have hpos := length_pos_of_ne_nil hne
    rw [length_append] at hlen
    exact absurd hlen (Nat.ne_of_gt (Nat.lt_of_le_of_lt hle (Nat.lt_add_of_pos_right hpos)))

/-- A text that is not empty and has no space at its ends. -/
structure Trimmed (t : Units) : Prop where
  first : ∃ u rest, t = u :: rest ∧ isSpace u = false
  last : trimEnd t = t

namespace Trimmed

lemma of_trim (h : trim t ≠ []) : Trimmed (trim t) where
  first := by
    obtain ⟨tail, htail⟩ := rdropWhile_prefix isSpace (t.dropWhile isSpace)
    obtain ⟨u, rest, hu⟩ := exists_cons_of_ne_nil h
    have hstart : t.dropWhile isSpace = u :: (rest ++ tail) := by
      rw [← htail, ← cons_append, ← hu]
      rfl
    have hhead := head_dropWhile_not isSpace (l := t) (by simp [hstart])
    exact ⟨u, rest, hu, by simpa [hstart] using hhead⟩
  last := trimEnd_trimEnd _

variable (h : Trimmed t)
include h

lemma trim_eq : trim t = t := by
  obtain ⟨u, rest, rfl, hu⟩ := h.first
  rw [trim, dropWhile_cons_of_neg (by simp [hu]), h.last]

lemma trimEnd_take_ne_nil (hn : n ≠ 0) : trimEnd (t.take n) ≠ [] := by
  obtain ⟨u, rest, rfl, hu⟩ := h.first
  obtain ⟨n, rfl⟩ := Nat.exists_eq_succ_of_ne_zero hn
  intro hnil
  have hspace := rdropWhile_eq_nil_iff.mp hnil u (by simp)
  exact absurd hspace (by simp [hu])

lemma take_ne_nil (hn : n ≠ 0) : t.take n ≠ [] :=
  fun hnil => h.trimEnd_take_ne_nil hn (by rw [hnil]; rfl)

lemma trimEnd_heading_append (i : ℕ) : trimEnd (heading i ++ t) = heading i ++ t := by
  obtain ⟨u, rest, hu, -⟩ := h.first
  rw [trimEnd_append_eq (.inr (by rw [h.last, hu]; simp)), h.last]

end Trimmed

/-! ## The cut in the parts -/

variable {texts parts : List Units} {maxChars : ℕ}

lemma trimmed_of_mem : ∀ part ∈ trimmedParts texts, Trimmed part := by
  intro part hpart
  simp only [trimmedParts, mem_filter, mem_map, decide_eq_true_eq] at hpart
  obtain ⟨⟨t, -, rfl⟩, hne⟩ := hpart
  exact .of_trim hne

lemma trimmedParts_eq_self (h : ∀ part ∈ parts, Trimmed part) : trimmedParts parts = parts := by
  have hmap : parts.map trim = parts :=
    (map_congr_left fun part hpart => (h part hpart).trim_eq).trans (map_id parts)
  rw [trimmedParts, hmap, filter_eq_self]
  intro part hpart
  obtain ⟨u, rest, rfl, -⟩ := (h part hpart).first
  rfl

lemma trimEnd_numbered (h : ∀ part ∈ parts, Trimmed part) :
    trimEnd (numbered i parts) = numbered i parts := by
  induction parts generalizing i with
  | nil => rfl
  | cons part parts ih =>
    obtain ⟨hpart, hparts⟩ := forall_mem_cons.mp h
    rw [numbered, trimEnd_append_eq (.inl (hpart.trimEnd_heading_append i)), ih hparts]

lemma numberedPortions_nil (i : ℕ) (parts : List Units) : numberedPortions i parts [] = [] := by
  induction parts generalizing i with
  | nil => rfl
  | cons part parts ih => simp [numberedPortions, ih]

/-- The loop takes from each text what the cut leaves of it. -/
lemma bounded_shown (h : ∀ part ∈ parts, Trimmed part) (n : ℕ) :
    (bounded i n parts).map trimEnd =
      (numberedPortions i parts (trimEnd ((numbered i parts).take n))).map trimEnd := by
  induction parts generalizing i n with
  | nil => rfl
  | cons part parts ih =>
    obtain ⟨hpart, hparts⟩ := forall_mem_cons.mp h
    rw [bounded, numberedPortions, numbered, append_assoc]
    rcases Nat.lt_or_ge (heading i).length n with hlt | hle
    · obtain ⟨k, rfl⟩ := Nat.exists_eq_add_of_lt hlt
      have hne := hpart.trimEnd_take_ne_nil k.succ_ne_zero
      rw [Nat.add_assoc, take_length_add_append]
      rcases Nat.lt_or_ge (k + 1) part.length with hcut | hall
      · -- the cut falls into the text
        have hlen := (length_trimEnd_take_le part (k + 1)).trans hcut.le
        rw [take_append_of_le_length hcut.le, trimEnd_append_eq (.inr hne), drop_left,
          take_of_length_le hlen, drop_eq_nil_of_le hlen]
        simp [hpart.take_ne_nil, hne, hcut, Nat.min_eq_left hcut.le, numberedPortions_nil]
      · -- the text is shown whole
        rw [take_append, take_of_length_le hall, ← append_assoc,
          trimEnd_append_eq (.inl (hpart.trimEnd_heading_append i)), append_assoc, drop_left,
          take_left, drop_left]
        simp [take_of_length_le hall, ih hparts]
    · -- the cut falls into the label
      have hlen := length_trimEnd_take_le (heading i ++ (part ++ numbered (i + 1) parts)) n
      simp [drop_eq_nil_of_le (hlen.trans hle), Nat.sub_eq_zero_of_le hle, numberedPortions_nil]

lemma heading_zero : heading 0 = [49, 46, 32] := by
  decide

lemma trimmed_merge (h : mergeChatUserTexts texts ≠ []) : Trimmed (mergeChatUserTexts texts) := by
  have htrimmed := @trimmed_of_mem texts
  revert h
  unfold mergeChatUserTexts
  split
  next part hparts => exact fun _ => htrimmed part (by simp [hparts])
  next =>
    intro h
    refine ⟨?_, trimEnd_numbered htrimmed⟩
    cases hparts : trimmedParts texts with
    | nil => simp [hparts, numbered] at h
    | cons => exact ⟨49, _, by simp [numbered, heading_zero]; rfl, by decide⟩

/-- The three units that a label takes from a single text are blank. -/
def LabelCostsNothing (texts : List Units) (maxChars : ℕ) : Prop :=
  (trimmedParts texts).length = 1 → 3 < budget maxChars ∧
    ∀ u ∈ ((mergeChatUserTexts texts).take (budget maxChars)).drop (budget maxChars - 3),
      isSpace u = true

lemma bounded_single_iff (h : Trimmed t) (hn : n ≠ 0) (hle : n ≤ t.length) :
    (bounded 0 n [t]).map trimEnd = (portions [t] (trimEnd (t.take n))).map trimEnd ↔
      3 < n ∧ ∀ u ∈ (t.take n).drop (n - 3), isSpace u = true := by
  have hshown : portions [t] (trimEnd (t.take n)) = [trimEnd (t.take n)] := by
    simp [portions, take_of_length_le ((length_trimEnd_take_le t n).trans hle),
      h.trimEnd_take_ne_nil hn]
  rw [hshown, bounded, heading_zero]
  by_cases h3 : 3 < n
  · have hpos : n - 3 ≠ 0 := by omega
    have hiff := trimEnd_append_eq_left_iff (a := t.take (n - 3)) (b := (t.take n).drop (n - 3))
    have hsplit := take_append_drop (n - 3) (t.take n)
    rw [take_take, Nat.min_eq_left (Nat.sub_le n 3)] at hsplit
    rw [hsplit, eq_comm] at hiff
    simp [h.take_ne_nil hpos, h3, hpos, hiff, bounded]
  · simp [show n - 3 = 0 by omega, h3]

/-- The parts are what is shown of the texts, unless a label is counted for a text without one. -/
theorem capped_parts_shown_iff (texts : List Units) (maxChars : ℕ) (visible : Units)
    (hlong : maxChars < (mergeChatUserTexts texts).length)
    (hvisible : capMergedChatUserText (mergeChatUserTexts texts) maxChars =
      visible ++ suffix maxChars) :
    (capMergedChatUserTextParts texts maxChars).map trimEnd =
        (portions (trimmedParts texts) visible).map trimEnd ↔
      LabelCostsNothing texts maxChars := by
  have htrimmed := @trimmed_of_mem texts
  have hne : mergeChatUserTexts texts ≠ [] := ne_nil_of_length_pos (by omega)
  have hagain : mergeChatUserTexts (trimmedParts texts) = mergeChatUserTexts texts := by
    unfold mergeChatUserTexts
    rw [trimmedParts_eq_self htrimmed]
  have hparts : capMergedChatUserTextParts texts maxChars =
      bounded 0 (budget maxChars) (trimmedParts texts) := by
    simp [capMergedChatUserTextParts, hagain, hne, Nat.not_le.mpr hlong]
  obtain rfl : trimEnd ((mergeChatUserTexts texts).take (budget maxChars)) = visible := by
    simpa [capMergedChatUserText, (trimmed_merge hne).trim_eq, hne, Nat.not_le.mpr hlong]
      using hvisible
  rw [hparts]
  by_cases hone : (trimmedParts texts).length = 1
  · obtain ⟨part, hpart⟩ := length_eq_one_iff.mp hone
    have hmerge : mergeChatUserTexts texts = part := by simp [mergeChatUserTexts, hpart]
    rw [LabelCostsNothing, imp_iff_right hone, hpart, hmerge]
    rw [hmerge] at hlong
    exact bounded_single_iff (htrimmed part (by simp [hpart])) (by simp [budget])
      (by unfold budget; omega)
  · have hmany : ∀ part, trimmedParts texts ≠ [part] := fun part hpart => hone (by simp [hpart])
    have hmerge : mergeChatUserTexts texts = numbered 0 (trimmedParts texts) := by
      unfold mergeChatUserTexts
      split
      next part hpart => exact absurd hpart (hmany part)
      next => rfl
    have hshown : ∀ shown, portions (trimmedParts texts) shown =
        numberedPortions 0 (trimmedParts texts) shown := by
      intro shown
      unfold portions
      split
      next part hpart => exact absurd hpart (hmany part)
      next => rfl
    rw [hmerge, hshown]
    exact iff_of_true (bounded_shown htrimmed _) fun h => absurd h hone

/-- The second of two texts is cut after its first character. -/
theorem capped_parts_shown_iff_two :
    (capMergedChatUserTextParts [units "abc", units "defgh"] 12).map trimEnd =
        (portions [units "abc", units "defgh"] (units "1. abc\n2. d")).map trimEnd ↔
      LabelCostsNothing [units "abc", units "defgh"] 12 :=
  capped_parts_shown_iff _ 12 _ (by decide +kernel) (by decide +kernel)

/-- Five units of a single text are visible and two are handed on. -/
theorem single_text_cut_short :
    capMergedChatUserText (mergeChatUserTexts [units "abcdefgh"]) 6 = units "abcde" ++ suffix 6 ∧
      (capMergedChatUserTextParts [units "abcdefgh"] 6).map trimEnd = [units "ab"] ∧
      (portions (trimmedParts [units "abcdefgh"]) (units "abcde")).map trimEnd =
        [units "abcde"] := by
  decide +kernel

end WispaceBot.CappedText
