import DriverExtension.Console.Loop
import DriverExtension.Proofs.Bridge.Wait
import DriverExtension.Proofs.Codes

namespace DriverExtension

open Log Text

/-!
# What a message tells

The message of an event and its row both begin with the number of the request.  Descriptions and
domains may hold any text, and yet the message of a terminal event tells which request it ended, and
how.

* `Names`, `Names.id_eq` — texts that begin with the number of a request;
* `Event.names_logMessage`, `Event.names_outcomeText` — every message and every row is such a text;
* `Completion.account_injective`, `Failure.code_eq_of_account` — what is behind the name of the
  request can be read back from the first, or the last, of its delimiters;
* `Event.EndAlike`, `Event.terminal_of_logMessage_eq` — what terminal events with one message have in
  common;
* `Event.messages_tell` — the account of messages and rows.
-/

/-! ### Numbers of requests -/

/-- A text begins with the number of a request. -/
def Names (id : RequestId) (text : String) : Prop :=
  ∃ rest, text = "#" ++ id.val.toNat.repr ++ ": " ++ rest

/-- The number of a request in a text. -/
theorem RequestId.toList_toString (id : RequestId) :
    (toString id).toList = '#' :: id.val.toNat.repr.toList := by
  have h : toString id = "#" ++ id.val.toNat.repr := rfl
  rw [h, String.toList_append]
  rfl

/-- No colon stands in the number of a request. -/
theorem RequestId.colon_notMem (id : RequestId) : ':' ∉ (toString id).toList := by
  rw [toList_toString, List.mem_cons]
  rintro (h | h)
  · exact absurd h (by decide)
  · exact notMem_repr (by decide) _ h

/-- Different requests have different numbers. -/
theorem RequestId.eq_of_toList_eq {id id' : RequestId}
    (h : (toString id).toList = (toString id').toList) : id = id' := by
  rw [toList_toString, toList_toString] at h
  have hnumber : id.val.toNat = id'.val.toNat :=
    Nat.repr_injective (String.toList_injective (List.cons.inj h).2)
  obtain ⟨n⟩ := id
  obtain ⟨n'⟩ := id'
  exact congrArg RequestId.mk (UInt64.toNat_inj.mp hnumber)

/-- What stands behind the number of a request. -/
theorem names_iff {id : RequestId} {text : String} :
    Names id text ↔ ∃ rest : List Char, text.toList = (toString id).toList ++ ':' :: ' ' :: rest := by
  have hlist (rest : List Char) : ("#" ++ id.val.toNat.repr ++ ": " ++ String.ofList rest).toList
      = (toString id).toList ++ ':' :: ' ' :: rest := by
    rw [RequestId.toList_toString]
    simp
  constructor
  · rintro ⟨rest, rfl⟩
    exact ⟨rest.toList, by rw [← hlist, String.ofList_toList]⟩
  · rintro ⟨rest, h⟩
    exact ⟨String.ofList rest, String.toList_injective (h.trans (hlist rest).symm)⟩

/-- A text begins with the number of one request only. -/
theorem Names.id_eq {id id' : RequestId} {text : String} (h : Names id text)
    (h' : Names id' text) : id = id' := by
  obtain ⟨rest, hrest⟩ := names_iff.mp h
  obtain ⟨rest', hrest'⟩ := names_iff.mp h'
  obtain ⟨hnumber, -⟩ :=
    append_cons_inj_left id.colon_notMem id'.colon_notMem (hrest.symm.trans hrest')
  exact RequestId.eq_of_toList_eq hnumber

/-! ### How requests ended -/

namespace Completion

/-- What a message tells about a result. -/
def account (c : Completion) : String := s!"{c} (result code {c.raw.toInt})"

/-- A result without a name is told by its code. -/
theorem toList_toString_other (code : Int64) :
    (toString (other code)).toList = "unknown result ".toList ++ code.toInt.repr.toList := by
  have h : toString (other code) = "unknown result " ++ code.toInt.repr := rfl
  rw [h, String.toList_append]

/-- The words for a result hold no parenthesis. -/
theorem parenthesis_notMem (c : Completion) : '(' ∉ (toString c).toList := by
  cases c with
  | completed => decide
  | afterReboot => decide
  | other code =>
    rw [toList_toString_other, List.mem_append]
    rintro (hmem | hmem)
    · exact absurd hmem (by decide)
    · exact notMem_repr_int (by decide) (by decide) _ hmem

/-- The words for a result without a name are not those for a result with one. -/
theorem toString_other_ne (code : Int64) {words : String} (hwords : words.toList.head? ≠ some 'u') :
    toString (other code) ≠ words := by
  rintro rfl
  rw [toList_toString_other] at hwords
  exact hwords rfl

/-- Different results have different words. -/
theorem toString_injective {c c' : Completion} (h : toString c = toString c') : c = c' := by
  cases c <;> cases c'
  case completed.completed => rfl
  case afterReboot.afterReboot => rfl
  case completed.afterReboot => exact absurd h (by decide)
  case afterReboot.completed => exact absurd h (by decide)
  case completed.other code => exact absurd h.symm (toString_other_ne code (by decide))
  case afterReboot.other code => exact absurd h.symm (toString_other_ne code (by decide))
  case other.completed code => exact absurd h (toString_other_ne code (by decide))
  case other.afterReboot code => exact absurd h (toString_other_ne code (by decide))
  case other.other code code' =>
    have hlist := congrArg String.toList h
    rw [toList_toString_other, toList_toString_other, List.append_cancel_left_eq] at hlist
    have hcode : code.toInt = code'.toInt :=
      Int.repr_injective (String.toList_injective hlist)
    rw [Int64.toInt_inj.mp hcode]

/-- What is told about a result, up to the parenthesis and from there. -/
theorem toList_account (c : Completion) :
    c.account.toList
      = ((toString c).toList ++ [' ']) ++ '(' :: ("result code ".toList
          ++ (c.raw.toInt.repr.toList ++ [')'])) := by
  have h : c.account = toString c ++ " (result code " ++ c.raw.toInt.repr ++ ")" := rfl
  rw [h]
  simp

/-- What is told about results tells them apart, also where they have one raw code. -/
theorem account_injective {c c' : Completion} (h : c.account.toList = c'.account.toList) :
    c = c' := by
  have hnot (c : Completion) : '(' ∉ (toString c).toList ++ [' '] := by
    rw [List.mem_append]
    rintro (hmem | hmem)
    · exact c.parenthesis_notMem hmem
    · exact absurd hmem (by decide)
  rw [toList_account, toList_account] at h
  obtain ⟨hwords, -⟩ := append_cons_inj_left (hnot c) (hnot c') h
  exact toString_injective (String.toList_injective (List.append_cancel_right hwords))

end Completion

namespace Failure

/-- What a message tells about a failure. -/
def account (f : Failure) : String := s!"{f} [{f.kind}]"

/-- What is told about a failure, up to the last bracket and from there. -/
theorem toList_account (f : Failure) :
    f.account.toList
      = ((toString f).toList ++ [' ']) ++ '[' :: ((toString f.kind).toList ++ [']']) := by
  have h : f.account = toString f ++ " [" ++ toString f.kind ++ "]" := rfl
  rw [h]
  simp

/-- What is told about failures tells their codes apart, whatever the descriptions and the domains
    hold: the label stands behind the last bracket. -/
theorem code_eq_of_account {f g : Failure} (h : f.account.toList = g.account.toList) :
    f.code = g.code := by
  have hnot (f : Failure) : '[' ∉ (toString f.kind).toList ++ [']'] := by
    rw [List.mem_append]
    rintro (hmem | hmem)
    · exact FailureKind.bracket_notMem_label _ hmem
    · exact absurd hmem (by decide)
  rw [toList_account, toList_account] at h
  obtain ⟨-, hlabel⟩ := append_cons_inj_right (hnot f) (hnot g) h
  exact code_eq_of_label_eq (String.toList_injective (List.append_cancel_right hlabel))

end Failure

/-! ### Messages -/

namespace Event

/-- Every message begins with the number of the request. -/
theorem names_logMessage (e : Event) : Names e.request.id e.logMessage := by
  rw [names_iff]
  rcases e with ⟨r, existing, replacement, _ | _⟩ | r | ⟨r, result⟩ | ⟨r, failure⟩ <;>
    simp only [logMessage, request, String.toList_append, List.append_assoc,
      List.append_cancel_left_eq] <;>
    exact ⟨_, rfl⟩

/-- So does every row. -/
theorem names_outcomeText (e : Event) : Names e.request.id e.outcomeText := by
  rw [names_iff]
  cases e <;>
    simp only [outcomeText, request, String.toList_append, List.append_assoc,
      List.append_cancel_left_eq] <;>
    exact ⟨_, rfl⟩

/-- What the terminal events are. -/
theorem isTerminal_cases {e : Event} (h : e.isTerminal = true) :
    (∃ r result, e = finished r result) ∨ ∃ r failure, e = failed r failure := by
  cases e with
  | replacementNeeded r existing replacement action => cases h
  | approvalNeeded r => cases h
  | finished r result => exact .inl ⟨r, result, rfl⟩
  | failed r failure => exact .inr ⟨r, failure, rfl⟩

/-- Two events end their requests alike: with the same result, or with errors of one code. -/
def EndAlike (e e' : Event) : Prop :=
  (∃ r r' result, e = finished r result ∧ e' = finished r' result) ∨
  ∃ r r' failure failure', e = failed r failure ∧ e' = failed r' failure' ∧
    failure.code = failure'.code

/-- What the message of a terminal event tells behind the direction of the request. -/
def ending : Event → List Char
  | finished _ result => "request finished: ".toList ++ result.account.toList
  | failed _ failure => "request failed: ".toList ++ failure.account.toList
  | _ => []

/-- The message of a terminal event, cut behind the number and the direction of the request. -/
theorem toList_logMessage_of_isTerminal {e : Event} (h : e.isTerminal = true) :
    e.logMessage.toList = (toString e.request.id).toList
      ++ ':' :: ' ' :: (e.request.kind.name.toList ++ ' ' :: e.ending) := by
  have hcolon : (toString ": ").toList = [':', ' '] := rfl
  have hname (k : RequestKind) : toString k = k.name := rfl
  rcases isTerminal_cases h with ⟨r, result, rfl⟩ | ⟨r, failure, rfl⟩
  · have hverb : (toString " request finished: ").toList = ' ' :: "request finished: ".toList := rfl
    have hending : (finished r result).ending = "request finished: ".toList
        ++ (toString result ++ toString " (result code " ++ toString result.raw.toInt
          ++ toString ")").toList := rfl
    rw [logMessage, hending, hname]
    simp only [String.toList_append, List.append_assoc, List.cons_append, List.nil_append, hcolon,
      hverb, request]
  · have hverb : (toString " request failed: ").toList = ' ' :: "request failed: ".toList := rfl
    have hending : (failed r failure).ending = "request failed: ".toList
        ++ (toString failure ++ toString " [" ++ toString failure.kind ++ toString "]").toList := rfl
    rw [logMessage, hending, hname]
    simp only [String.toList_append, List.append_assoc, List.cons_append, List.nil_append, hcolon,
      hverb, request]

/-- Terminal events that tell the same ending end their requests alike. -/
theorem endAlike_of_ending_eq {e e' : Event} (he : e.isTerminal = true) (he' : e'.isTerminal = true)
    (h : e.ending = e'.ending) : EndAlike e e' := by
  have hother (c : Completion) (f : Failure) :
      "request finished: ".toList ++ c.account.toList
        ≠ "request failed: ".toList ++ f.account.toList := by
    -- the tenth character is the first one that differs
    intro heq
    have htenth : "request fi".toList = "request fa".toList := congrArg (List.take 10) heq
    exact absurd htenth (by decide)
  rcases isTerminal_cases he with ⟨r, result, rfl⟩ | ⟨r, failure, rfl⟩ <;>
    rcases isTerminal_cases he' with ⟨r', result', rfl⟩ | ⟨r', failure', rfl⟩
  · obtain rfl := Completion.account_injective (List.append_cancel_left h)
    exact .inl ⟨r, r', result, rfl, rfl⟩
  · exact absurd h (hother result failure')
  · exact absurd h.symm (hother result' failure)
  · exact .inr ⟨r, r', failure, failure', rfl, rfl,
      Failure.code_eq_of_account (List.append_cancel_left h)⟩

/-- Terminal events with one message belong to requests with one number and one direction, and end
    them alike. -/
theorem terminal_of_logMessage_eq {e e' : Event} (he : e.isTerminal = true)
    (he' : e'.isTerminal = true) (h : e.logMessage = e'.logMessage) :
    e.request.id = e'.request.id ∧ e.request.kind = e'.request.kind ∧ EndAlike e e' := by
  have hspace : ∀ k : RequestKind, ' ' ∉ k.name.toList := by
    rintro (_ | _) <;> decide
  have hname : ∀ k k' : RequestKind, k.name.toList = k'.name.toList → k = k' := by
    rintro (_ | _) (_ | _) hk <;> first | rfl | exact absurd hk (by decide)
  have hlist := congrArg String.toList h
  rw [toList_logMessage_of_isTerminal he, toList_logMessage_of_isTerminal he'] at hlist
  obtain ⟨hnumber, hrest⟩ :=
    append_cons_inj_left (RequestId.colon_notMem _) (RequestId.colon_notMem _) hlist
  obtain ⟨hkind, hending⟩ :=
    append_cons_inj_left (hspace _) (hspace _) (List.cons.inj hrest).2
  exact ⟨RequestId.eq_of_toList_eq hnumber, hname _ _ hkind, endAlike_of_ending_eq he he' hending⟩

/-! ### The account -/

/-- The record is an error just for a failed request. -/
theorem record_level_eq_error_iff (e : Event) :
    e.record.level = .error ↔ ∃ r failure, e = failed r failure := by
  cases e with
  | replacementNeeded r existing replacement action => cases action <;> simp [record, logLevel]
  | approvalNeeded r => simp [record, logLevel]
  | finished r result => simp [record, logLevel]
  | failed r failure => simp [record, logLevel]

/-- So is the row. -/
theorem severity_eq_error_iff (e : Event) :
    e.severity = .error ↔ ∃ r failure, e = failed r failure := by
  cases e <;> simp [severity]

/-- **Messages.**  Every event is logged as one record, whether it is waited for or shown, and gives
    one row, behind those that were kept; both begin with `#`, the number of the request and a
    colon, so neither can be that of an event of another request.  Terminal events with the same
    message, whatever their descriptions and domains hold, moreover belong to requests of one
    direction, and end with the same result or with errors of the same code.  The record is an error
    just if the row is, and this is so for failures only. -/
theorem messages_tell :
    (∀ e : Event,
      Effect.records (.arrival e) = [e.record] ∧
      (∀ id, (Wait.records id e).filter (·.level ≠ .debug) = [e.record]) ∧
      (∀ (p : Panel) time, ∃ dropped kept, p.outcomes = dropped ++ kept ∧ dropped.length ≤ 1 ∧
        (p.recordEvent time e).outcomes = kept ++ [⟨time, e.severity, e.outcomeText⟩]) ∧
      Names e.request.id e.record.message ∧ Names e.request.id e.outcomeText ∧
      (e.record.level = .error ↔ ∃ r failure, e = failed r failure) ∧
      (e.severity = .error ↔ ∃ r failure, e = failed r failure)) ∧
    (∀ e e' : Event, e.request.id ≠ e'.request.id →
      e.record.message ≠ e'.record.message ∧ e.outcomeText ≠ e'.outcomeText) ∧
    (∀ e e' : Event, e.isTerminal = true → e'.isTerminal = true →
      e.record.message = e'.record.message →
      e.request.id = e'.request.id ∧ e.request.kind = e'.request.kind ∧ EndAlike e e') := by
  refine ⟨fun e => ⟨rfl, ?_, ?_, e.names_logMessage, e.names_outcomeText,
    e.record_level_eq_error_iff, e.severity_eq_error_iff⟩, ?_, ?_⟩
  · intro id
    have hone := Wait.filter_records_ne_debug id [e]
    rwa [List.flatMap_singleton, List.map_singleton] at hone
  · intro p time
    by_cases hfull : p.outcomes.length = Panel.maxOutcomes
    · refine ⟨p.outcomes.take 1, p.outcomes.drop 1, (List.take_append_drop 1 _).symm,
        List.length_take_le 1 _, ?_⟩
      show (if _ then _ else _) ++ [_] = _
      rw [if_pos hfull]
      rfl
    · refine ⟨[], p.outcomes, rfl, Nat.zero_le 1, ?_⟩
      show (if _ then _ else _) ++ [_] = _
      rw [if_neg hfull]
      rfl
  · intro e e' hid
    constructor
    · intro hmessage
      have hnames : Names e'.request.id e.record.message := hmessage ▸ e'.names_logMessage
      exact hid (e.names_logMessage.id_eq hnames)
    · intro htext
      have hnames : Names e'.request.id e.outcomeText := htext ▸ e'.names_outcomeText
      exact hid (e.names_outcomeText.id_eq hnames)
  · intro e e' he he' hmessage
    exact terminal_of_logMessage_eq he he' hmessage

/-- Two errors may read alike, since a parenthesis may stand in a description or in a domain; their
    codes are the same all the same. -/
theorem messages_tell_ambiguous :
    let r : Request := ⟨⟨7⟩, .activate, default⟩
    let e := failed r ⟨"z", 5, "x (y"⟩
    let e' := failed r ⟨"y (z", 5, "x"⟩
    let other := failed { r with id := ⟨8⟩ } ⟨"z", 5, "x (y"⟩
    e ≠ e' ∧ e.isTerminal = true ∧ e'.isTerminal = true ∧ e.record.message = e'.record.message ∧
    EndAlike e e' ∧ e.request.id ≠ other.request.id ∧ e.record.message ≠ other.record.message := by
  intro r e e' other
  obtain ⟨-, hdifferent, hsame⟩ := messages_tell
  have hmessage : e.record.message = e'.record.message := by decide +kernel
  have hid : e.request.id ≠ other.request.id := by decide +kernel
  have hne : e ≠ e' := by
    intro heq
    exact absurd (Failure.mk.inj (failed.inj heq).2).1 (by decide)
  exact ⟨hne, rfl, rfl, hmessage, (hsame e e' rfl rfl hmessage).2.2, hid, (hdifferent e other hid).1⟩

end Event
end DriverExtension
