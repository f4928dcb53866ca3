import IdentityForm.Proofs.Carried
import IdentityForm.Proofs.Commit
import IdentityForm.Proofs.Echo

/-! # Dates that are read again

A date is read from more texts than it is printed as: white space, short numbers and signs go through,
and behind a sign a year may have any number of digits. What is printed has two digits, two digits and
a year without a plus sign. Up to the year 9999 that means the date again. The text of a later year is
no date, so that an entry with such a date shows a text that its next save refuses.
-/

namespace IdentityForm

/-! ## Texts -/

namespace Text

variable {n width : Nat}

theorem lt_length_digits (large : 10 ≤ n) (longer : width < (digits (n / 10)).length) :
    width + 1 < (digits n).length := by
  rw [digits_of_ge large, List.length_append]
  exact Nat.succ_lt_succ longer

theorem lt_length_digits_four (large : 10000 ≤ n) : 4 < (digits n).length := by
  have one : 0 < (digits (n / 10 / 10 / 10 / 10)).length :=
    List.length_pos_iff.2 (digits_ne_nil _)
  exact lt_length_digits (by omega) (lt_length_digits (by omega)
    (lt_length_digits (by omega) (lt_length_digits (by omega) one)))

end Text

namespace Date

open Text

variable {d : Date} {text : String} {year : Int}

/-- A number of limited width leaves something behind in a longer text. -/
theorem rest_of_scanNumber {width n : Nat} {cs rest : List Char}
    (h : scanNumber width cs = some (n, rest)) (long : width < (trimLeft cs).length) :
    rest ≠ [] := by
  have taken : (((trimLeft cs).take width).takeWhile isDigit).length ≤ width :=
    Nat.le_trans (List.takeWhile_prefix isDigit).length_le (List.length_take_le ..)
  obtain ⟨_, -, read⟩ := Option.bind_eq_some_iff.1 h
  obtain ⟨-, rfl⟩ := Prod.mk.inj (Option.some.inj read)
  rw [← List.length_pos_iff, List.length_drop]
  omega

/-- A year of more than four digits is not read to its end where no sign stands in front of it. -/
theorem rest_of_scanYear {p : Int × List Char} (late : 9999 < year)
    (h : scanYear (paddedInteger 4 year) = some p) : p.2 ≠ [] := by
  obtain ⟨n, rfl⟩ : ∃ n : Nat, year = n := ⟨year.toNat, by omega⟩
  have all : ∀ c ∈ zeroPad 4 (digits n), isDigit c = true := fun _ => isDigit_of_mem_zeroPad
  have filled : zeroPad 4 (digits n) ≠ [] := zeroPad_digits_ne_nil 4 n
  have whole : trimLeft (zeroPad 4 (digits n)) = zeroPad 4 (digits n) := trimLeft_digits all
  have long : 4 < (trimLeft (zeroPad 4 (digits n))).length := by
    have digits : 4 < (digits n).length := lt_length_digits_four (by omega)
    rw [whole, zeroPad, List.length_append]
    omega
  have unsigned : (scanNumber 4 (zeroPad 4 (digits n))).map (fun p => ((p.1 : Int), p.2)) =
      some p := (scanYear_of_digits filled all).symm.trans h
  obtain ⟨read, hread, rfl⟩ := Option.map_eq_some_iff.1 unsigned
  exact rest_of_scanNumber hread long

/-- What is read is a date of the calendar. -/
theorem exists_of_parse (h : parse text = some d) :
    Exists d.day.toNat d.month.toNat d.year.toInt := by
  simp only [parse, Option.bind_eq_bind, Option.bind_eq_some_iff] at h
  obtain ⟨⟨day, _⟩, -, _, -, ⟨month, _⟩, -, _, -, ⟨year, _⟩, -, h⟩ := h
  obtain ⟨⟨-, there⟩, same⟩ := Option.ite_none_right_eq_some.1 h
  obtain rfl := Option.some.inj same
  obtain ⟨low, high, first, within⟩ := there
  have short : day ≤ 31 := Nat.le_trans within (daysInMonth_le year month)
  have named : month ≤ 12 := month_le_of_daysInMonth (Nat.le_trans first within)
  have hday : (UInt32.ofNat day).toNat = day := UInt32.toNat_ofNat_of_lt' (by
    show day < 4294967296
    omega)
  have hmonth : (UInt32.ofNat month).toNat = month := UInt32.toNat_ofNat_of_lt' (by
    show month < 4294967296
    omega)
  have hyear : (Int32.ofInt year).toInt = year := Int32.toInt_ofInt_of_le (by omega) (by omega)
  rw [hday, hmonth, hyear]
  exact ⟨low, high, first, within⟩

/-- The text of a date that was read is that date, or none if its year is longer than four digits. -/
theorem parse_format_of_parse (h : parse text = some d) :
    parse d.format = if d.year.toInt ≤ 9999 then some d else none := by
  have there := exists_of_parse h
  split
  · rename_i last
    exact parse_format ⟨there, last⟩
  · rename_i late
    rw [parse_format_eq there, Option.bind_eq_none_iff]
    intro p hp
    have rest : p.2 ≠ [] := rest_of_scanYear (by omega) hp
    rw [if_neg fun whole => rest whole.1]

theorem format_ne_empty (d : Date) : d.format ≠ "" := by
  rw [format, ← String.toList_inj.ne, String.toList_ofList]
  simp

end Date

/-! ## Dates of an element -/

theorem SubmittedElement.dates_ofDraft (fields : Fields) (files : Files Draft) (kind : Kind) :
    (ofDraft fields files kind).dates =
      kind.dateFields.filterMap fun key => Date.parse (fields.text key) := by
  have single (key : String) : (Date.parse (fields.text key)).toList =
      [key].filterMap fun key => Date.parse (fields.text key) := by
    rw [List.filterMap_cons]
    cases Date.parse (fields.text key) <;> rfl
  cases kind with
  | personalDetails => exact single "birth_date"
  | identity => exact single "expiry_date"
  | _ => rfl

/-- An element with one date shows its text in the one field for it. -/
theorem StoredElement.text_date {x : StoredElement} {d : Date} (dated : x.dates = [d]) :
    ∃ key, x.kind.dateFields = [key] ∧ x.contents.fields.text key = d.format := by
  have shown {date : Option Date} (h : date.toList = [d]) : dateText date = d.format := by
    obtain rfl : date = some d := by simpa [Option.toList_eq_singleton_iff] using h
    rfl
  cases x with
  | personalDetails details =>
      refine ⟨"birth_date", rfl, ?_⟩
      rw [← shown dated]
      simp (disch := simp) [contents, Fields.text_ofTexts, List.lookup_cons]
  | identity paper document =>
      refine ⟨"expiry_date", rfl, ?_⟩
      rw [← shown dated]
      simp (disch := simp) [contents, Fields.text_ofTexts, List.lookup_cons]
  | _ => cases dated

/-! ## The save after an echo -/

namespace Entry

variable {e : Entry} {x : StoredElement} {d : Date} {changes : Fields}

/-- Whether there is an editor or not, a save after an echo starts from the fields of the echo. -/
theorem draftFields_atSave_commit (e : Entry) (c : Contents) :
    (e.commit c).atSave.draftFields = c.fields := by
  rw [commit_eq, atSave]
  split <;> rfl

/-- What a save reads under the name of the date is the text that is shown there. -/
theorem text_atSave_commit {key : String} (shown : x.contents.fields.text key = d.format)
    (kept : ∀ field, changes.get? key = some field → field.text = d.format) :
    ((e.commit x.contents).atSave.draftFields.overlay changes).text key = d.format := by
  cases mentioned : changes.get? key with
  | some field => rw [Fields.text_overlay_of_mentioned mentioned, kept field mentioned]
  | none => rw [Fields.text_overlay_of_unmentioned mentioned, draftFields_atSave_commit, shown]

end Entry

namespace Session

variable {s : Session} {kind : Kind} {changes : Fields} {t : Session}

/-- A field is refused by a save for its date alone. -/
theorem Saving.of_fieldError {key : String} (h : s.Saving kind changes t) (drained : s.outbox = [])
    (told : .notice (.fieldError kind key) ∈ t.outbox) : ∃ e, s.form.entry? kind = some e ∧
      (e.atSave.draftFields.overlay changes).badDates kind ≠ [] := by
  cases h with
  | @misdated e fields he _ hfields bad =>
      subst hfields
      exact ⟨e, he, bad⟩
  | _ => simp [drained] at told

/-- A date that was read from a text, stored, and brought back by the echo of the save is shown as its
own text. The next save that leaves that text alone takes the date along if its year has no more than
four digits. A later year it finds to be no date: the field is refused, and nothing is sent. -/
theorem save_after_echo {text : String} {d : Date} (read : Date.parse text = some d) :
    (Date.parse d.format = if d.year.toInt ≤ 9999 then some d else none) ∧
    ∀ (e : Entry) (x : StoredElement) (changes : Fields), e.kind = x.kind → x.dates = [d] →
      (∀ key ∈ e.kind.dateFields, ∀ field, changes.get? key = some field →
        field.text = d.format) →
      let saved := (e.commit x.contents).atSave.draftFields.overlay changes
      (∀ key ∈ e.kind.dateFields, (e.commit x.contents).draftFields.text key = d.format) ∧
      saved.badDates e.kind = (if d.year.toInt ≤ 9999 then [] else e.kind.dateFields) ∧
      (∀ files, (SubmittedElement.ofDraft saved files e.kind).dates =
        if d.year.toInt ≤ 9999 then [d] else []) ∧
      ∀ s : Session, s.outbox = [] → s.entry? e.kind = some (e.commit x.contents) →
        (∀ token element password, .request (.setElement token element password) ∈
            (s.save e.kind changes).1.outbox → d.year.toInt ≤ 9999 ∧ element.dates = [d]) ∧
        ∀ key, .notice (.fieldError e.kind key) ∈ (s.save e.kind changes).1.outbox →
          9999 < d.year.toInt := by
  have again := Date.parse_format_of_parse read
  refine ⟨again, fun e x changes same dated kept => ?_⟩
  obtain ⟨key, only, shown⟩ := x.text_date dated
  rw [← same] at only
  have text := Entry.text_atSave_commit (e := e) shown (kept key (only ▸ List.mem_cons_self))
  intro saved
  have bad : saved.badDates e.kind = if d.year.toInt ≤ 9999 then [] else e.kind.dateFields := by
    have trimmed : Text.trim d.format = d.format := d.trimmed_format.trim_eq
    split at again <;> rename_i year <;>
      simp [Fields.badDates, saved, only, text, trimmed, d.format_ne_empty, again, year]
  have dates (files : Files Draft) : (SubmittedElement.ofDraft saved files e.kind).dates =
      if d.year.toInt ≤ 9999 then [d] else [] := by
    split at again <;> rename_i year <;>
      simp [SubmittedElement.dates_ofDraft, saved, only, text, again, year]
  refine ⟨?_, bad, dates, fun s drained he => ⟨fun token element password sent => ?_,
    fun name told => ?_⟩⟩
  · rw [only]
    simpa [Entry.commit_eq] using shown
  · obtain ⟨e', he', -, -, good, rfl⟩ := (s.saving e.kind changes).of_setElement drained sent
    obtain rfl := Option.some.inj (he.symm.trans he')
    have year : d.year.toInt ≤ 9999 := by
      by_contra late
      rw [show _ = saved.badDates e.kind from rfl, bad, if_neg late, only] at good
      cases good
    exact ⟨year, (dates _).trans (if_pos year)⟩
  · obtain ⟨e', he', refused⟩ := (s.saving e.kind changes).of_fieldError drained told
    obtain rfl := Option.some.inj (he.symm.trans he')
    by_contra year
    exact refused (bad.trans (if_pos (by omega)))

/-- A leap day before the first year is typed with white space and short numbers, and stays. -/
theorem save_after_echo_of_old_card :
    let e := (Entry.blank (.identity .identityCard)).commit Entry.oldCard.contents
    let saved := e.atSave.draftFields.overlay (.ofTexts [("document_no", "AB 2")])
    Date.parse " 29. 2.-44" = some ⟨29, 2, -44⟩ ∧
      Date.parse (Date.format ⟨29, 2, -44⟩) = some ⟨29, 2, -44⟩ ∧
      e.draftFields.text "expiry_date" = "29.02.-044" ∧
      saved.badDates (.identity .identityCard) = [] ∧
      (SubmittedElement.ofDraft saved e.atSave.draftFiles (.identity .identityCard)).dates =
        [⟨29, 2, -44⟩] := by
  have read : Date.parse " 29. 2.-44" = some ⟨29, 2, -44⟩ := by decide +kernel
  obtain ⟨again, echo⟩ := save_after_echo read
  obtain ⟨shown, good, dates, -⟩ := echo (.blank (.identity .identityCard)) Entry.oldCard
    (.ofTexts [("document_no", "AB 2")]) rfl (by decide +kernel) (by decide +kernel)
  have text : Date.format ⟨29, 2, -44⟩ = "29.02.-044" := by decide +kernel
  exact ⟨read, again.trans (if_pos (by decide)), (shown "expiry_date" (by decide)).trans text,
    good.trans (if_pos (by decide)), (dates _).trans (if_pos (by decide))⟩

/-- A year of five digits is typed behind a plus sign. The date is sent, comes back, and is shown
without the sign; then another number is saved, and the date is refused. -/
theorem save_after_echo_refused :
    let date : Date := ⟨1, 1, 10000⟩
    let stored : StoredElement := .identity .passport ⟨"AB 1", some date, none, none, none, []⟩
    let first : Action := .save (.identity .passport)
      (.ofTexts [("document_no", "AB 1"), ("expiry_date", "01.01.+10000")])
    let second : Action := .save (.identity .passport) (.ofTexts [("document_no", "AB 2")])
    let echo : Action := .reply ⟨⟨4, .task .save (.identity .passport)⟩, .ok (.element stored)⟩
    let before := opening Run.passportForm []
    let later := (5, echo) :: (4, first) :: before
    Playable (.fresh .plain .empty) ((6, second) :: later) ∧
      Date.parse "01.01.+10000" = some date ∧ Date.parse date.format = none ∧
      Turn.effects ⟨(play (.fresh .plain .empty) before).2, 4, first⟩ =
        [.request (.setElement ⟨4, .task .save (.identity .passport)⟩ (stored.map (·.file.id))
          ⟨"secret"⟩)] ∧
      Turn.effects ⟨(play (.fresh .plain .empty) later).2, 6, second⟩ =
        [.notice (.fieldError (.identity .passport) "expiry_date")] := by
  intro date stored first second echo before later
  refine ⟨?_, ?_, ?_, ?_, ?_⟩ <;> decide +kernel

end Session

end IdentityForm
