import PageExtract.Proofs.Placeholders
import PageExtract.Proofs.SuppliedPages
import PageExtract.Proofs.Values

/-!
Answers in bytes. The text of a JSON value has no control character in it, so an answer always holds
the value that the scrape came to, and either way its text fits where a NUL ends a text. Main result:
`replies_well_formed`.
-/

set_option autoImplicit false

namespace PageExtract

open Json (Value)

namespace Json

/-- None of the characters is a control character below the space. -/
def Printed (s : List Char) : Prop :=
  ∀ c ∈ s, 0x20 ≤ c.toNat

@[simp] theorem printed_nil : Printed [] := fun _ member => absurd member List.not_mem_nil

@[simp] theorem printed_cons {c : Char} {s : List Char} :
    Printed (c :: s) ↔ 0x20 ≤ c.toNat ∧ Printed s := List.forall_mem_cons

@[simp] theorem printed_append {s t : List Char} : Printed (s ++ t) ↔ Printed s ∧ Printed t :=
  List.forall_mem_append

theorem Numeral.printed {s : List Char} (numeral : Numeral s) : Printed s := by
  intro c member
  rcases numeral c member with digit | sign
  · have least : 0x30 ≤ c.toNat := (Char.isDigit_iff_toNat.mp digit).1
    omega
  · have signs : Printed ['-', '+', '.', 'e'] := by simp
    exact signs c sign

theorem digitChar_printed {n : Nat} (hexadecimal : n < 16) : 0x20 ≤ (Nat.digitChar n).toNat := by
  have all : ∀ m < 16, 0x20 ≤ (Nat.digitChar m).toNat := by decide
  exact all n hexadecimal

theorem escapedChar_printed (c : Char) : Printed (escapedChar c) := by
  rw [escapedChar.eq_def]
  split
  · simp
  · simp
  · simp
  · simp
  · simp
  · simp
  · simp
  · split
    · rename_i control
      have high := digitChar_printed (show c.toNat / 16 < 16 by omega)
      have low := digitChar_printed (show c.toNat % 16 < 16 by omega)
      simp [high, low]
    · rename_i visible
      simp only [printed_cons, printed_nil, and_true]
      omega

theorem stringChars_printed (s : String) : Printed (stringChars s) := by
  have inside : Printed (s.toList.flatMap escapedChar) := by
    intro c member
    obtain ⟨d, _, escaped⟩ := List.mem_flatMap.mp member
    exact escapedChar_printed d c escaped
  simp [stringChars, inside]

namespace Value

theorem itemsChars_eq_flatMap (xs : List Value) :
    itemsChars xs = xs.flatMap (fun x => ',' :: x.chars) ++ [']'] := by
  induction xs with
  | nil => rfl
  | cons x rest ih => rw [itemsChars, ih, List.flatMap_cons, List.append_assoc, List.cons_append]

theorem membersChars_eq_flatMap (ms : List (String × Value)) :
    membersChars ms =
      ms.flatMap (fun m => ',' :: stringChars m.1 ++ ':' :: m.2.chars) ++ ['\x7d'] := by
  induction ms with
  | nil => rfl
  | cons m rest ih =>
      rw [membersChars, ih, List.flatMap_cons]
      simp only [List.append_assoc, List.cons_append]

theorem itemsChars_printed {items : List Value} (each : ∀ v ∈ items, Printed v.chars) :
    Printed (itemsChars items) := by
  rw [itemsChars_eq_flatMap, printed_append]
  refine ⟨fun c member => ?_, by simp⟩
  obtain ⟨v, inside, written⟩ := List.mem_flatMap.mp member
  exact printed_cons.mpr ⟨by simp, each v inside⟩ c written

theorem membersChars_printed {members : List (String × Value)}
    (each : ∀ m ∈ members, Printed m.2.chars) : Printed (membersChars members) := by
  rw [membersChars_eq_flatMap, printed_append]
  refine ⟨fun c member => ?_, by simp⟩
  obtain ⟨m, inside, written⟩ := List.mem_flatMap.mp member
  have whole : Printed (',' :: stringChars m.1 ++ ':' :: m.2.chars) := by
    simp [stringChars_printed, each m inside]
  exact whole c written

/-- The text of a value has no control characters, whatever its strings and keys have. -/
theorem chars_printed (v : Value) : Printed v.chars := by
  induction v using induct with
  | null => simp [chars]
  | bool b => cases b <;> simp [chars]
  | number n => exact n.numeral_chars.printed
  | string s => exact stringChars_printed s
  | array items each =>
      cases items with
      | nil => simp [chars]
      | cons x xs =>
          have rest := itemsChars_printed fun v member => each v (List.mem_cons_of_mem x member)
          simp [chars, each x List.mem_cons_self, rest]
  | object members each =>
      cases members with
      | nil => simp [chars]
      | cons m ms =>
          have rest := membersChars_printed fun n member => each n (List.mem_cons_of_mem m member)
          simp [chars, stringChars_printed, each m List.mem_cons_self, rest]

theorem nul_notMem_text (v : Value) : '\x00' ∉ v.text.toList := by
  intro nul
  rw [text, String.toList_ofList] at nul
  exact absurd (chars_printed v _ nul) (by simp)

end Value

end Json

namespace Boundary

/-- The text with spaces in place of NUL. -/
def spaced (s : String) : String :=
  String.ofList (s.toList.map fun c => if c = '\x00' then ' ' else c)

theorem nul_notMem_spaced (s : String) : '\x00' ∉ (spaced s).toList := by
  rw [spaced, String.toList_ofList, List.mem_map]
  rintro ⟨c, _, nul⟩
  split at nul
  · cases nul
  · contradiction

namespace Reply

/-- Either a value or a message, and no NUL in it. -/
structure WellFormed (r : Reply) : Prop where
  one : r.json.isSome ≠ r.error.isSome
  json : ∀ s, r.json = some s → '\x00' ∉ s.toList
  error : ∀ s, r.error = some s → '\x00' ∉ s.toList

theorem failed_eq (message : String) : failed message = ⟨none, some (spaced message)⟩ := rfl

/-- No value is refused for a NUL in its text. -/
theorem ofValue_eq (v : Value) : ofValue v = ⟨some v.text, none⟩ := by
  have absent : v.text.toList.contains '\x00' = false := by
    simpa using v.nul_notMem_text
  rw [ofValue, absent]
  rfl

theorem failed_wellFormed (message : String) : (failed message).WellFormed := by
  refine ⟨by simp [failed_eq], fun s impossible => ?_, fun s written => ?_⟩
  · cases impossible
  · cases written
    exact nul_notMem_spaced message

/-- The reply holds the text of a value, or the message of a failure. -/
structure Answers (r : Reply) (result : Except Failure Value) : Prop where
  value : ∀ v, result = .ok v → r = ⟨some v.text, none⟩
  failure : ∀ e, result = .error e → r = ⟨none, some (spaced e.message)⟩

theorem ofResult_answers (result : Except Failure Value) : (ofResult result).Answers result := by
  refine ⟨fun v done => ?_, fun e failed => ?_⟩
  · rw [done, ofResult, ofValue_eq]
  · rw [failed, ofResult, failed_eq]

theorem ofResult_wellFormed (result : Except Failure Value) : (ofResult result).WellFormed := by
  cases result with
  | error e => exact failed_wellFormed e.message
  | ok v =>
      rw [ofResult, ofValue_eq]
      refine ⟨by simp, fun s written => ?_, fun s impossible => ?_⟩
      · cases written
        exact v.nul_notMem_text
      · cases impossible

end Reply

section

variable (fetcher : Fetcher) (sessions : Sessions)

theorem perform_wellFormed (text : String) (html : Option String) :
    (perform fetcher sessions text html).reply.WellFormed := by
  simp only [perform]
  split
  · exact Reply.failed_wellFormed _
  · exact Reply.ofResult_wellFormed _

theorem scrapeText_wellFormed (request : Option Bytes) :
    (scrapeText fetcher sessions request).reply.WellFormed := by
  simp only [scrapeText]
  split
  · exact Reply.failed_wellFormed _
  · exact perform_wellFormed fetcher sessions _ none

theorem scrapePageText_wellFormed (html request : Option Bytes) :
    (scrapePageText fetcher sessions html request).reply.WellFormed := by
  simp only [scrapePageText]
  split
  · exact Reply.failed_wellFormed _
  · split
    · exact Reply.failed_wellFormed _
    · exact perform_wellFormed fetcher sessions _ _

/-- Every answer is either a text of JSON or a message, without a NUL in it, whatever the bytes are.
It is the text of the value that the scrape comes to, whatever that has in its strings and keys, and
the message of the failure, with spaces for NUL, where it fails. -/
theorem replies_well_formed (html request : Option Bytes) :
    (scrapeText fetcher sessions request).reply.WellFormed ∧
    (scrapePageText fetcher sessions html request).reply.WellFormed ∧
    (∀ result, (Reply.ofResult result).WellFormed ∧ (Reply.ofResult result).Answers result) ∧
    ∀ text r, requestText request = .ok text → ScrapeRequest.decoder.ofText text = .ok r →
      (scrapeText fetcher sessions request).reply.Answers (scrape fetcher sessions r).1.result ∧
      ∀ page, pageText html = .ok page →
        (scrapePageText fetcher sessions html request).reply.Answers
          (scrape fetcher sessions (r.withPage page)).1.result := by
  refine ⟨scrapeText_wellFormed fetcher sessions request,
    scrapePageText_wellFormed fetcher sessions html request,
    fun result => ⟨Reply.ofResult_wellFormed result, Reply.ofResult_answers result⟩, ?_⟩
  intro text r there read
  have whole : { r with html := (none : Option String).or r.html } = r := rfl
  constructor
  · simp only [scrapeText, there, perform, read, whole]
    exact Reply.ofResult_answers _
  · intro page spelled
    simp only [scrapePageText, spelled, there, perform, read]
    exact Reply.ofResult_answers (scrape fetcher sessions (r.withPage page)).1.result

end

/-- A field whose name is NUL. -/
theorem replies_well_formed_linkPage :
    let text := "\x7b\"url\":\"a:\",\"html\":\"<p><p href=a:>\",\"data\":\x7b\"\\u0000\":\"p\"\x7d\x7d"
    let r := linkRequest (.map [("\x00", .selector "p")]) .standard
    let request := some (Text.utf8 text.toList)
    requestText request = .ok text ∧ ScrapeRequest.decoder.ofText text = .ok r ∧
      (scrapeText (.ofPages []) .empty request).reply = ⟨some "\x7b\"\\u0000\":\"\"\x7d", none⟩ := by
  intro text r request
  have there : requestText request = .ok text := by cbv
  have read : ScrapeRequest.decoder.ofText text = .ok r := by cbv
  have done : (scrape (.ofPages []) .empty r).1.result = .ok (.object [("\x00", .string "")]) := by
    rw [scrape_result_of_firstVisit _ _ _ _ (firstVisit_linkRequest _ _ _ _)]
    rfl
  have answers := ((replies_well_formed (.ofPages []) .empty none request).2.2.2 text r there read).1
  refine ⟨there, read, ?_⟩
  rw [answers.value _ done]
  rfl

end Boundary

end PageExtract
