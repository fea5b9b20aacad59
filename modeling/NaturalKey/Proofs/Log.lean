import Mathlib.Data.List.Basic
import Mathlib.Data.List.Infix
import NaturalKey.Log
import NaturalKey.Proofs.Outcome
import NaturalKey.Proofs.Text.Blank
import NaturalKey.Proofs.Text.Utf8

/-!
Settings of the log. Rules are not torn as long as their parts begin and end between characters. The
offsets of the parts are counted without the white space in front of a rule, but lie in the whole
text, so this is so wherever every character is one byte, or where there is no such white space. How
much a setting tells of an event is the verbosity of the rule that counts for it; the event is told
if its level is within.
-/

set_option autoImplicit false

namespace NaturalKey.Log.Rule

open Utf8 (encode encodeChar)

/-! ### Between characters -/

/-- An offset at which a character of a text begins, or at the end. -/
def Between (text : String) (offset : Nat) : Prop :=
  ∃ before after, text.toList = before ++ after ∧ offset = (before.flatMap encodeChar).length

theorem between_end (text : String) : Between text (encode text).length :=
  ⟨text.toList, [], (List.append_nil _).symm, rfl⟩

theorem Between.isBoundary {text : String} {offset : Nat} (h : Between text offset) :
    isBoundary (encode text) offset = true := by
  obtain ⟨before, after, parts, rfl⟩ := h
  rw [Rule.isBoundary, encode, parts, List.flatMap_append, List.getElem?_append_right le_rfl,
    Nat.sub_self]
  cases after with
  | nil => simp
  | cons c after =>
    obtain ⟨lead, more, bytes, first, -⟩ := Utf8.encodeChar_eq_cons c
    simp [bytes, first]

theorem exists_eq_append {before after before' after' : List Char}
    (same : before ++ after = before' ++ after')
    (order : (before.flatMap encodeChar).length ≤ (before'.flatMap encodeChar).length) :
    ∃ inside, before' = before ++ inside := by
  rcases List.append_eq_append_iff.mp same with ⟨inside, rfl, -⟩ | ⟨inside, rfl, -⟩
  · exact ⟨inside, rfl⟩
  · cases inside with
    | nil => exact ⟨[], by simp⟩
    | cons c inside =>
      have bytes := List.length_pos_of_ne_nil (Utf8.encodeChar_ne_nil c)
      simp only [List.flatMap_append, List.flatMap_cons, List.length_append] at order
      omega

theorem exists_cut {text : String} {first last : Nat} (start : Between text first)
    (stop : Between text last) (order : first ≤ last) :
    ∃ part, cut (encode text) first last = .ok part := by
  rw [cut, start.isBoundary, stop.isBoundary]
  obtain ⟨before, after, parts, rfl⟩ := start
  obtain ⟨before', after', parts', rfl⟩ := stop
  obtain ⟨inside, rfl⟩ := exists_eq_append (parts.symm.trans parts') order
  have whole : encode text =
      (before ++ inside).flatMap encodeChar ++ after'.flatMap encodeChar := by
    rw [encode, parts', List.flatMap_append]
  have middle : ((encode text).take ((before ++ inside).flatMap encodeChar).length).drop
      (before.flatMap encodeChar).length = encode (String.ofList inside) := by
    rw [whole, List.take_left, List.flatMap_append, List.drop_left, Utf8.encode_ofList]
  rw [middle, Utf8.decode?_encode]
  exact ⟨_, rfl⟩

/-! ### Reading -/

/-- Nothing is torn: what comes of it has a property, or it is refused. -/
inductive Untorn {α : Type} (P : α → Prop) : Except Failure α → Prop
  | ok {value : α} : P value → Untorn P (.ok value)
  | unreadable : Untorn P (.error .unreadable)

theorem Untorn.bind {α β : Type} {P : α → Prop} {Q : β → Prop} {x : Except Failure α}
    (h : Untorn P x) {f : α → Except Failure β} (next : ∀ value, P value → Untorn Q (f value)) :
    Untorn Q (x >>= f) := by
  cases h with
  | ok has => exact next _ has
  | unreadable => exact .unreadable

theorem untorn_cut {text : String} {first last : Nat} (start : Between text first)
    (stop : Between text last) (order : first ≤ last) :
    Untorn (fun _ => True) (cut (encode text) first last) := by
  obtain ⟨part, found⟩ := exists_cut start stop order
  rw [found]
  exact .ok trivial

theorem untorn_withField (rule : Rule) (text : String) :
    Untorn (fun _ => True) (rule.withField text) := by
  unfold withField
  split
  · exact .unreadable
  · split
    · exact .unreadable
    · exact .ok trivial
  · split
    · exact .ok trivial
    · exact .unreadable

def Place.BeganIn (text : String) (offset : Nat) : Place → Prop
  | .start | .afterField | .afterSpan => True
  | .name first | .span first | .field first | .level first =>
    Between text first ∧ first ≤ offset

/-- Whatever the place is, the parts that end with the character are cut out, and one that begins
behind it begins between characters. -/
theorem untorn_next {text : String} {reading : Reading} {offset : Nat} {c : Char}
    (began : reading.place.BeganIn text offset) (here : Between text offset)
    (behind : Between text (offset + (encodeChar c).length)) :
    Untorn (fun later => later.place.BeganIn text (offset + (encodeChar c).length))
      (reading.next (encode text) offset c) := by
  have bytes := List.length_pos_of_ne_nil (Utf8.encodeChar_ne_nil c)
  have mark (single : (encodeChar c).length = 1) : Between text (offset + 1) := single ▸ behind
  obtain ⟨rule, place⟩ := reading
  cases place with
  | start =>
    simp only [Reading.next]
    split
    · rename_i bracket
      subst bracket
      exact .ok ⟨mark (by decide), le_rfl⟩
    · split
      · exact .ok ⟨here, Nat.le_add_right _ _⟩
      · exact .unreadable
  | name first =>
    simp only [Reading.next]
    split
    · rename_i ends
      apply (untorn_cut began.1 here began.2).bind
      intro target _
      rcases ends with rfl | rfl <;> exact .ok ⟨mark (by decide), le_rfl⟩
    · exact .ok ⟨began.1, Nat.le_add_right_of_le began.2⟩
  | span first =>
    simp only [Reading.next]
    split
    · apply (untorn_cut began.1 here began.2).bind
      intro name _
      exact .ok trivial
    · split
      · rename_i brace
        subst brace
        apply (untorn_cut began.1 here began.2).bind
        intro name _
        exact .ok ⟨mark (by decide), le_rfl⟩
      · exact .ok ⟨began.1, Nat.le_add_right_of_le began.2⟩
  | field first =>
    simp only [Reading.next]
    split
    · apply (untorn_cut began.1 here began.2).bind
      intro field _
      apply (untorn_withField rule field).bind
      intro rule _
      exact .ok trivial
    · exact .ok ⟨began.1, Nat.le_add_right_of_le began.2⟩
  | afterField =>
    simp only [Reading.next]
    split
    · exact .ok trivial
    · exact .unreadable
  | afterSpan =>
    simp only [Reading.next]
    split
    · rename_i equals
      subst equals
      exact .ok ⟨mark (by decide), le_rfl⟩
    · exact .unreadable
  | level first => exact .ok ⟨began.1, Nat.le_add_right_of_le began.2⟩

/-- By induction on the characters that are left, each of which begins where one may. -/
theorem untorn_run {text : String} {rest : List Char} {reading : Reading} {offset : Nat}
    (began : reading.place.BeganIn text offset)
    (between : ∀ before, before <+: rest →
      Between text (offset + (before.flatMap encodeChar).length)) :
    Untorn (fun later => ∃ offset, later.place.BeganIn text offset)
      (reading.run (encode text) offset rest) := by
  induction rest generalizing reading offset with
  | nil => exact .ok ⟨offset, began⟩
  | cons c rest ih =>
    have here : Between text offset := between [] List.nil_prefix
    have behind : Between text (offset + (encodeChar c).length) := by
      simpa using between [c] (by simp)
    apply (untorn_next began here behind).bind
    intro later began
    apply ih began
    intro before start
    have further := between (c :: before) (by simpa using start)
    rwa [List.flatMap_cons, List.length_append, ← Nat.add_assoc] at further

theorem untorn_finish {text : String} {reading : Reading} {offset : Nat}
    (began : reading.place.BeganIn text offset) :
    Untorn (fun _ => True) (reading.finish (encode text)) := by
  have before {first : Nat} (h : Between text first) : first ≤ (encode text).length := by
    obtain ⟨before, after, parts, rfl⟩ := h
    rw [encode, parts, List.flatMap_append, List.length_append]
    exact Nat.le_add_right _ _
  obtain ⟨rule, place⟩ := reading
  cases place with
  | start | span _ | field _ | afterField => exact .unreadable
  | afterSpan => exact .ok trivial
  | name first =>
    apply (untorn_cut began.1 (between_end text) (before began.1)).bind
    intro name _
    dsimp only
    split <;> exact .ok trivial
  | level first =>
    apply (untorn_cut began.1 (between_end text) (before began.1)).bind
    intro level _
    dsimp only
    split
    · exact .ok trivial
    · split
      · exact .ok trivial
      · exact .unreadable

/-! ### Rules -/

/-- Every character is a single byte, or the first one is no white space. -/
def Steady (chars : List Char) : Prop :=
  (∀ c ∈ chars, c.toNat < 0x80) ∨ ∀ c ∈ chars.head?, Text.isSpace c = false

instance (chars : List Char) : Decidable (Steady chars) :=
  inferInstanceAs (Decidable (_ ∨ _))

theorem length_flatMap_encodeChar {chars : List Char} (h : ∀ c ∈ chars, c.toNat < 0x80) :
    (chars.flatMap encodeChar).length = chars.length := by
  induction chars with
  | nil => rfl
  | cons c chars ih =>
    obtain ⟨single, others⟩ := List.forall_mem_cons.mp h
    rw [List.flatMap_cons, List.length_append, ih others, encodeChar, if_pos single,
      List.length_singleton, List.length_cons, Nat.add_comm]

theorem between_of_singles {text : String} (h : ∀ c ∈ text.toList, c.toNat < 0x80) {offset : Nat}
    (within : offset ≤ text.toList.length) : Between text offset := by
  refine ⟨text.toList.take offset, text.toList.drop offset, (List.take_append_drop _ _).symm, ?_⟩
  rw [length_flatMap_encodeChar fun c member => h c (List.mem_of_mem_take member),
    List.length_take_of_le within]

theorem isPrefix_trimEnd (chars : List Char) : Text.trimEnd chars <+: chars := by
  obtain ⟨space, -, whole⟩ := Text.exists_trimEnd_append chars
  exact ⟨space, whole.symm⟩

theorem between_of_steady {text : String} (h : Steady text.toList) {before : List Char}
    (start : before <+: (Text.trim text).toList) :
    Between text (before.flatMap encodeChar).length := by
  rw [Text.toList_trim] at start
  have start := start.trans (isPrefix_trimEnd _)
  rcases h with singles | flush
  · have among : before.Sublist text.toList :=
      start.sublist.trans (List.dropWhile_sublist _)
    rw [length_flatMap_encodeChar fun c member => singles c (among.subset member)]
    exact between_of_singles singles among.length_le
  · have whole : Text.trimStart text.toList = text.toList := by
      unfold Text.trimStart
      cases chars : text.toList with
      | nil => rfl
      | cons c rest =>
        rw [chars] at flush
        rw [List.dropWhile_cons, flush c rfl]
        rfl
    rw [whole] at start
    obtain ⟨after, parts⟩ := start
    exact ⟨before, after, parts.symm, rfl⟩

/-- A rule that is steady is read or refused. -/
theorem parse_ne_torn {text : String} (h : Steady text.toList) : parse text ≠ .error .torn := by
  have start : Place.start.BeganIn text 0 := trivial
  have between (before : List Char) (first : before <+: (Text.trim text).toList) :
      Between text (0 + (before.flatMap encodeChar).length) := by
    rw [Nat.zero_add]
    exact between_of_steady h first
  have untorn : Untorn (fun _ => True) (parse text) := by
    apply Untorn.bind (untorn_run start between)
    rintro reading ⟨offset, began⟩
    exact untorn_finish began
  intro torn
  rw [torn] at untorn
  cases untorn

end NaturalKey.Log.Rule

/-! ### How much settings tell -/

namespace NaturalKey.Log

namespace Setting

/-- How much is told of events like this one, 0 for nothing. -/
def verbosity (setting : Setting) (event : Event) : Nat :=
  match setting.ruleFor? event with
  | some rule => rule.verbosity
  | none => 0

/-- The first setting is at most as verbose as the second, whatever happens. -/
def Within (quiet loud : Setting) : Prop :=
  ∀ event, quiet.verbosity event ≤ loud.verbosity event

def level (verbosity : Nat) : Setting :=
  ⟨[{ Rule.everything with verbosity }]⟩

theorem levelVerbosity_pos (event : Event) : 0 < event.level.verbosity := by
  cases event.level <;> decide

theorem tells_iff {setting : Setting} {event : Event} :
    setting.tells event = true ↔ event.level.verbosity ≤ setting.verbosity event := by
  unfold tells verbosity
  cases setting.ruleFor? event with
  | some rule => exact decide_eq_true_iff
  | none =>
    constructor
    · nofun
    · intro within
      exact absurd within (Nat.not_le_of_lt (levelVerbosity_pos event))

@[simp]
theorem verbosity_level (verbosity : Nat) (event : Event) :
    (level verbosity).verbosity event = verbosity := rfl

theorem within_level_iff {verbosity other : Nat} :
    (level verbosity).Within (level other) ↔ verbosity ≤ other := by
  unfold Within
  simp only [verbosity_level]
  constructor
  · intro within
    exact within .keptInMemory
  · intro within event
    exact within

theorem parse?_levelName :
    ∀ named ∈ levelNames, parse? (some named.1) = some (level named.2) := by
  decide +kernel

/-- None of the rules is torn by the white space in front of it. -/
def Steady (text : String) : Prop :=
  ∀ rule ∈ splitAtCommas text.toList, Rule.Steady rule

/-- A setting breaks the program down only if a rule in it begins with white space and has a
character of several bytes. -/
theorem exists_parse?_of_steady {text? : Option String} (h : ∀ text ∈ text?, Steady text) :
    ∃ setting, parse? text? = some setting := by
  cases text? with
  | none => exact ⟨_, rfl⟩
  | some text =>
    unfold parse?
    dsimp only
    split
    · exact ⟨_, rfl⟩
    · exact ⟨_, rfl⟩
    · rename_i torn
      obtain ⟨rule, member, failed⟩ := exists_error_of_mapM torn
      have steady : Rule.Steady (String.ofList rule).toList := by
        rw [String.toList_ofList]
        exact h text rfl rule (List.mem_of_mem_filter member)
      exact absurd failed (Rule.parse_ne_torn steady)

theorem Within.tells {quiet loud : Setting} (h : quiet.Within loud) {event : Event}
    (told : quiet.tells event = true) : loud.tells event = true := by
  apply tells_iff.mpr
  exact Nat.le_trans (tells_iff.mp told) (h event)

end Setting

theorem lines_singleton (setting : Setting) (event : Event) :
    lines setting [event] = if setting.tells event then [line event] else [] := by
  unfold lines
  cases told : setting.tells event <;> simp [told]

@[simp]
theorem lines_append (setting : Setting) (first second : List Event) :
    lines setting (first ++ second) = lines setting first ++ lines setting second := by
  unfold lines
  rw [List.filter_append, List.map_append]

/-- What is told under the less verbose of two settings is told under the other, in the same order.
-/
theorem lines_sublist {quiet loud : Setting} (h : quiet.Within loud) (events : List Event) :
    (lines quiet events).Sublist (lines loud events) := by
  unfold lines
  apply List.Sublist.map
  apply List.monotone_filter_right
  intro event told
  exact h.tells told

end NaturalKey.Log
