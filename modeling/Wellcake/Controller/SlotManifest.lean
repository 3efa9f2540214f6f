/-
  The slot manifest of a cluster backup (`backup.go`): the line a node prints about itself in
  `CLUSTER NODES`, and the manifest line the `dump` script makes of it.

  The script takes the fields of that line from the ninth on that start with a digit, joins them with
  commas, and writes them as the third field of its own line.  Slots are printed as ranges, and a
  slot that is being moved has a marker in brackets besides; so the text is kept as text, built with
  the tools of `Base.Shell`.

  A `SelfLine` is such a line with what a node guarantees of it: eight fields, slots, markers.  What
  is read from its text is what it was made of (`SelfLine.words_text`), and what is read from a
  manifest line is what was written into it (`words_manifestLine`), with one exception: a master
  without slots leaves the third field out.
-/
import Wellcake.Base.Ranges
import Wellcake.Base.Shell

namespace Wellcake.Snapshot

open Text Shell Ranges

/-! ## What `CLUSTER NODES` prints -/

section

variable (r : Range)

/-- A range of slots as `CLUSTER NODES` prints it. -/
def slotText : Chars :=
  if r.lo = r.hi then decimal r.lo else decimal r.lo ++ '-' :: decimal r.hi

theorem mem_slotText {r : Range} {c : Char} (h : c ∈ slotText r) : c.isDigit = true ∨ c = '-' := by
  rw [slotText] at h
  split at h
  · exact .inl (isDigit_of_mem_decimal h)
  · rcases List.mem_append.mp h with hlo | hrest
    · exact .inl (isDigit_of_mem_decimal hlo)
    · rcases List.mem_cons.mp hrest with rfl | hhi
      · exact .inr rfl
      · exact .inl (isDigit_of_mem_decimal hhi)

theorem startsWithDigit_slotText : startsWithDigit (slotText r) = true := by
  rw [slotText]
  split
  · simpa using startsWithDigit_decimal_append r.lo []
  · exact startsWithDigit_decimal_append r.lo _

theorem slotText_ne_nil : slotText r ≠ [] := by
  intro h
  have hdigit := startsWithDigit_slotText r
  rw [h] at hdigit
  cases hdigit

theorem isWord_slotText : IsWord (slotText r) :=
  isWord_of_isDigit (slotText_ne_nil r) fun _ => mem_slotText

theorem comma_not_mem_slotText : ',' ∉ slotText r := by
  intro h
  rcases mem_slotText h with hdigit | hdash
  · cases hdigit
  · cases hdash

theorem splitOn_slotText :
    (slotText r).splitOn '-' =
      if r.lo = r.hi then [decimal r.lo] else [decimal r.lo, decimal r.hi] := by
  have hdash : ∀ n, '-' ∉ decimal n := fun n => not_mem_decimal rfl n
  rw [slotText]
  split
  · have hone : (['-'].intercalate [decimal r.lo]).splitOn '-' = [decimal r.lo] :=
      List.splitOn_intercalate '-' (by simp [hdash]) (by simp)
    rwa [List.intercalate_singleton] at hone
  · have htwo : (['-'].intercalate [decimal r.lo, decimal r.hi]).splitOn '-' =
        [decimal r.lo, decimal r.hi] :=
      List.splitOn_intercalate '-' (by simp [hdash]) (by simp)
    rw [List.intercalate_cons_cons, List.intercalate_singleton] at htwo
    simpa using htwo

end

/-- The line a node prints for itself: eight fields, its slots, and a marker for every slot it is
    migrating or importing. -/
structure SelfLine where
  header : List Chars
  slots : List Range
  markers : List Chars
  header_length : header.length = 8
  header_words : ∀ w ∈ header, IsWord w
  markers_words : ∀ m ∈ markers, IsWord m ∧ m.head? = some '['

section

variable (l : SelfLine)

/-- The line as text. -/
def SelfLine.text : Line := unwords (l.header ++ (l.slots.map slotText ++ l.markers))

theorem SelfLine.isWord_of_mem {w : Chars}
    (hw : w ∈ l.header ++ (l.slots.map slotText ++ l.markers)) : IsWord w := by
  rcases List.mem_append.mp hw with hheader | hrest
  · exact l.header_words w hheader
  · rcases List.mem_append.mp hrest with hslot | hmarker
    · obtain ⟨r, -, rfl⟩ := List.mem_map.mp hslot
      exact isWord_slotText r
    · exact (l.markers_words w hmarker).1

theorem SelfLine.words_text :
    words l.text = l.header ++ (l.slots.map slotText ++ l.markers) :=
  words_unwords fun _ hw => l.isWord_of_mem hw

/-- The fields from the ninth on. -/
theorem SelfLine.drop_words_text :
    (words l.text).drop 8 = l.slots.map slotText ++ l.markers := by
  rw [l.words_text, ← l.header_length, List.drop_left]

theorem SelfLine.marker_not_digit {m : Chars} (hm : m ∈ l.markers) :
    startsWithDigit m = false := by
  have hhead := (l.markers_words m hm).2
  cases m with
  | nil => rfl
  | cons c cs =>
    obtain rfl := Option.some.inj hhead
    rfl

end

/-- `awk '/myself/…'` -/
def isMyself (l : Line) : Bool := contains "myself".toList l

/-- The reply `CLUSTER NODES` gives: `self` is the one line that mentions `myself`. -/
def Shows (reply : Chars) (self : SelfLine) : Prop :=
  ∃ before after, lines (trDelete '\r' reply) = before ++ self.text :: after ∧
    (∀ l ∈ before ++ after, isMyself l = false) ∧ isMyself self.text = true

/-- A reply of nothing but the line shows it. -/
theorem shows_text {l : SelfLine} (hreturn : '\r' ∉ l.text) (hself : isMyself l.text = true) :
    Shows l.text l := by
  have hnewline : '\n' ∉ l.text := by
    intro h
    rcases mem_intercalate h with hblank | ⟨w, hw, hmem⟩
    · cases hblank
    · have hblank := (l.isWord_of_mem hw).2 _ hmem
      cases hblank
  have hne : l.text ≠ [] := by
    intro h
    rw [h] at hself
    cases hself
  refine ⟨[], [], ?_, by simp, hself⟩
  rw [trDelete_of_not_mem hreturn, lines_of_not_mem hne hnewline, List.nil_append]

/-! ## The backup's manifest line -/

/-- `SLOTS=$(… awk '{s="";for(j=9;j<=NF;j++) if($j ~ /^[0-9]/) s=s (s==""?"":",") $j; print s}')`. -/
def slotsOf (self : Line) : Chars :=
  (((words self).drop 8).filter startsWithDigit).foldl
    (fun s f => s ++ ((if s = [] then [] else [',']) ++ f)) []

/-- `shard-${i}`. -/
def shardName (i : Nat) : Chars := "shard-".toList ++ decimal i

/-- `echo "shard-${i} ${FQDN} ${SLOTS}"`. -/
def manifestLine (i : Nat) (fqdn slots : Chars) : Line := unwords [shardName i, fqdn, slots]

theorem foldl_comma {fs : List Chars} (h : ∀ f ∈ fs, f ≠ []) (s : Chars) (hs : s ≠ []) :
    fs.foldl (fun s f => s ++ ((if s = [] then [] else [',']) ++ f)) s =
      [','].intercalate (s :: fs) := by
  induction fs generalizing s with
  | nil => rw [List.foldl_nil, List.intercalate_singleton]
  | cons f fs ih =>
    have hf := h f (.head _)
    have hfs : ∀ g ∈ fs, g ≠ [] := fun g hg => h g (.tail _ hg)
    rw [List.foldl_cons, if_neg hs, ih hfs _ (by simp [hs]), List.intercalate_cons_cons]
    cases fs with
    | nil => simp only [List.intercalate_singleton, List.append_assoc]
    | cons g gs => simp only [List.intercalate_cons_cons, List.append_assoc]

/-- The slots are written joined by commas. -/
theorem slotsOf_text (l : SelfLine) :
    slotsOf l.text = [','].intercalate (l.slots.map slotText) := by
  have hfilter : ((words l.text).drop 8).filter startsWithDigit = l.slots.map slotText := by
    have hslots : (l.slots.map slotText).filter startsWithDigit = l.slots.map slotText := by
      refine List.filter_eq_self.mpr fun t ht => ?_
      obtain ⟨r, -, rfl⟩ := List.mem_map.mp ht
      exact startsWithDigit_slotText r
    have hmarkers : l.markers.filter startsWithDigit = [] := by
      refine List.filter_eq_nil_iff.mpr fun m hm => ?_
      rw [l.marker_not_digit hm]
      exact Bool.false_ne_true
    rw [l.drop_words_text, List.filter_append, hslots, hmarkers, List.append_nil]
  rw [slotsOf, hfilter]
  cases hslots : l.slots with
  | nil => rfl
  | cons r rs =>
    rw [List.map_cons, List.foldl_cons, if_pos rfl, List.nil_append, List.nil_append]
    refine foldl_comma (fun f hf => ?_) _ (slotText_ne_nil r)
    obtain ⟨s, -, rfl⟩ := List.mem_map.mp hf
    exact slotText_ne_nil s

theorem slotsOf_eq_nil {l : SelfLine} : slotsOf l.text = [] ↔ l.slots = [] := by
  rw [slotsOf_text]
  cases l.slots with
  | nil => exact ⟨fun _ => rfl, fun _ => rfl⟩
  | cons r rs =>
    have hin : slotText r <:+: [','].intercalate ((r :: rs).map slotText) :=
      infix_intercalate (.head _)
    refine ⟨fun h => ?_, fun h => nomatch h⟩
    rw [h, List.infix_nil] at hin
    exact absurd hin (slotText_ne_nil r)

theorem slotsOf_not_blank (l : SelfLine) : ∀ c ∈ slotsOf l.text, isBlank c = false := by
  intro c hc
  rw [slotsOf_text] at hc
  rcases mem_intercalate hc with rfl | ⟨t, ht, hct⟩
  · rfl
  · obtain ⟨r, -, rfl⟩ := List.mem_map.mp ht
    exact (isWord_slotText r).2 c hct

theorem isWord_shardName (i : Nat) : IsWord (shardName i) := by
  refine ⟨List.append_ne_nil_of_right_ne_nil _ (decimal_ne_nil i), fun c hc => ?_⟩
  rcases List.mem_append.mp hc with hc | hc
  · have hshard : IsWord "shard-".toList := by decide
    exact hshard.2 c hc
  · exact (isWord_decimal i).2 c hc

section ManifestLine

variable {fqdn slots : Chars} (i : Nat) (hfqdn : IsWord fqdn)
  (hslots : ∀ c ∈ slots, isBlank c = false)

include hfqdn hslots

/-- A manifest line is read back field by field; slots that are not there are no field. -/
theorem words_manifestLine : words (manifestLine i fqdn slots) =
    shardName i :: fqdn :: if slots = [] then [] else [slots] := by
  have hblank : ∀ w ∈ [shardName i, fqdn, slots], ∀ c ∈ w, isBlank c = false := by
    intro w hw
    simp only [List.mem_cons, List.not_mem_nil, or_false] at hw
    rcases hw with rfl | rfl | rfl
    · exact (isWord_shardName i).2
    · exact hfqdn.2
    · exact hslots
  have hread := words_unwords_filter hblank
  rw [List.filter_cons_of_pos (by simpa using (isWord_shardName i).1),
    List.filter_cons_of_pos (by simpa using hfqdn.1)] at hread
  rw [manifestLine, hread]
  by_cases hnil : slots = [] <;> simp [hnil]

theorem field_one_manifestLine : field 1 (manifestLine i fqdn slots) = shardName i := by
  rw [field, words_manifestLine i hfqdn hslots]
  rfl

theorem field_three_manifestLine : field 3 (manifestLine i fqdn slots) = slots := by
  rw [field, words_manifestLine i hfqdn hslots]
  by_cases hnil : slots = [] <;> simp [hnil]

end ManifestLine

/-! ## A line to try things on -/

section

variable (master : Bool) (slots : List Range)

/-- A line of `CLUSTER NODES` with the given role and slots. -/
def plainLine : SelfLine where
  header := ["5d1e".toList, ":6379@16379,r-0".toList,
    (if master then "myself,master" else "myself,slave").toList, "-".toList, "0".toList, "0".toList,
    "1".toList, "connected".toList]
  slots := slots
  markers := []
  header_length := rfl
  header_words := by cases master <;> decide
  markers_words := by simp

theorem shows_plainLine :
    Shows (plainLine master slots).text (plainLine master slots) := by
  have hflags : "myself".toList <:+:
      (if master then "myself,master" else "myself,slave").toList := by
    cases master <;> decide
  refine shows_text (fun hreturn => ?_) (decide_eq_true ?_)
  · rcases mem_intercalate hreturn with hblank | ⟨w, hw, hmem⟩
    · cases hblank
    · rcases List.mem_append.mp hw with hheader | hslot
      · have hnone : ∀ w ∈ (plainLine master []).header, '\r' ∉ w := by cases master <;> decide
        exact hnone w hheader hmem
      · rw [plainLine, List.append_nil] at hslot
        obtain ⟨r, -, rfl⟩ := List.mem_map.mp hslot
        rcases mem_slotText hmem with hdigit | hdash
        · cases hdigit
        · cases hdash
  · exact hflags.trans (infix_intercalate (List.mem_append_left _ (by simp [plainLine])))

end

end Wellcake.Snapshot
