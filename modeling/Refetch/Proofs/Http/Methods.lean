import Refetch.Http.Request
import Refetch.Proofs.Header.MultiMap
import Refetch.Proofs.Text.Letters
/-!
# Methods and their bodies

1. The name of a method is a text of token characters, at least one (`isToken_encode_iff`).
2. Setting a method is all or nothing: the name and the body are checked together before either is
   changed (`Request.setMethod_cases`).
3. So method and body fit at any time, whatever was done with the request
   (`Request.governed_after`).
-/

namespace Refetch

/-! ## Names -/

def IsTokenChar (c : Char) : Prop := c.isAlphanum ∨ c ∈ "!#$%&'*+-.^_`|~".toList

instance (c : Char) : Decidable (IsTokenChar c) := by unfold IsTokenChar; infer_instance

/-- A text of token characters that is not empty. -/
structure IsMethodName (name : String) : Prop where
  ne_empty : name ≠ ""
  chars : ∀ c ∈ name.toList, IsTokenChar c

theorem isTokenByte_ofNat_iff :
    ∀ n < 0x80, isTokenByte (UInt8.ofNat n) = true ↔ IsTokenChar (Char.ofNat n) := by
  decide

theorem isTokenByte_lt {b : UInt8} (h : isTokenByte b = true) : b.toNat < 0x80 := by
  simp only [isTokenByte, Bool.or_eq_true, Bool.and_eq_true, decide_eq_true_eq, beq_iff_eq,
    UInt8.le_iff_toNat_le, ← UInt8.toNat_inj, UInt8.reduceToNat] at h
  omega

theorem IsTokenChar.lt {c : Char} (h : IsTokenChar c) : c.toNat < 0x80 := by
  rcases h with h | h
  · unfold Char.isAlphanum Char.isAlpha Char.isUpper Char.isLower Char.isDigit at h
    simp only [Bool.or_eq_true, Bool.and_eq_true, decide_eq_true_eq, UInt32.le_iff_toNat_le,
      ge_iff_le] at h
    have hu : 'Z'.val.toNat = 90 ∧ 'z'.val.toNat = 122 ∧ '9'.val.toNat = 57 := ⟨rfl, rfl, rfl⟩
    show c.val.toNat < 0x80
    omega
  · have hall : "!#$%&'*+-.^_`|~".toList.all (·.toNat < 0x80) = true := by decide
    exact of_decide_eq_true (List.all_eq_true.1 hall c h)

/-- The bytes of a character are those of a token if it is a character of a token. -/
theorem all_encodeChar_iff (c : Char) :
    (String.utf8EncodeChar c).all isTokenByte = true ↔ IsTokenChar c := by
  rw [List.all_eq_true]
  rcases Nat.lt_or_ge c.toNat 0x80 with hc | hc
  · rw [Text.Utf8.encodeChar_of_ascii hc, List.forall_mem_singleton, isTokenByte_ofNat_iff _ hc,
      Char.ofNat_toNat]
  · refine iff_of_false (fun h => ?_) fun h => Nat.not_lt.2 hc h.lt
    obtain ⟨b, hb⟩ := List.exists_mem_of_ne_nil _ (String.utf8EncodeChar_ne_nil (c := c))
    have := isTokenByte_lt (h b hb)
    have := Text.Utf8.le_of_mem_encodeChar hc hb
    omega

/-- **A name is a token** exactly if it is a text of token characters. -/
theorem isToken_encode_iff (name : String) :
    isToken (Text.Utf8.encode name) = true ↔ IsMethodName name := by
  have hempty : Text.Utf8.encode name = [] ↔ name = "" := by
    rw [Text.Utf8.encode, Text.Utf8.encodeChars, List.flatMap_eq_nil_iff]
    constructor
    · intro h
      cases hn : name.toList with
      | nil => simpa using hn
      | cons c cs =>
        exact absurd (h c (by rw [hn]; exact List.mem_cons_self)) String.utf8EncodeChar_ne_nil
    · rintro rfl
      exact nofun
  rw [isToken, Bool.and_eq_true, Bool.not_eq_true', ← Bool.not_eq_true, List.isEmpty_iff, hempty,
    Text.Utf8.encode, Text.Utf8.encodeChars, List.all_flatMap, List.all_eq_true]
  refine ⟨fun h => ⟨h.1, fun c hc => (all_encodeChar_iff c).1 (h.2 c hc)⟩,
    fun h => ⟨h.ne_empty, fun c hc => (all_encodeChar_iff c).2 (h.chars c hc)⟩⟩

/-! ## Bodies -/

namespace Request

/-- A body that a method of this name may go with. -/
structure Fits (name : String) (body : Option Payload) : Prop where
  required : name ∈ ["POST", "PUT", "PATCH"] → body.isSome
  forbidden : name ∈ ["GET", "HEAD"] → body = none

variable {r : Request} {name : String} {body : Option Payload}

theorem requiresBody_iff (m : Method) :
    m.requiresBody = true ↔ m.name ∈ ["POST", "PUT", "PATCH"] := by
  simp [Method.requiresBody, or_assoc]

theorem forbidsBody_iff (m : Method) : m.forbidsBody = true ↔ m.name ∈ ["GET", "HEAD"] := by
  simp [Method.forbidsBody]

/-- How a method is set. What does not fit is told, and changes nothing. -/
theorem setMethod_cases (r : Request) (name : String) (body : Option Payload) :
    IsMethodName name ∧ Fits name body ∧
      r.setMethod name body = (.ok (), { r with method := ⟨name⟩, body := body }) ∨
    ¬ IsMethodName name ∧ r.setMethod name body = (.error (.config (.method name)), r) ∨
    (IsMethodName name ∧ name ∈ ["POST", "PUT", "PATCH"] ∧ body = none ∧
      r.setMethod name body = (.error (.config (.bodyMissing name)), r)) ∨
    IsMethodName name ∧ name ∈ ["GET", "HEAD"] ∧ body.isSome ∧
      r.setMethod name body = (.error (.config (.bodyUnexpected name)), r) := by
  have hreq := requiresBody_iff ⟨name⟩
  have hforb := forbidsBody_iff ⟨name⟩
  by_cases hn : IsMethodName name
  · have hm : Method.ofName? name = some ⟨name⟩ := if_pos ((isToken_encode_iff name).2 hn)
    unfold setMethod checkMethod Method.checkBody
    rw [hm]
    dsimp only at hreq hforb ⊢
    by_cases hr : name ∈ ["POST", "PUT", "PATCH"] ∧ body = none
    · rw [if_pos (by simp [hreq.2 hr.1, hr.2])]
      exact .inr (.inr (.inl ⟨hn, hr.1, hr.2, rfl⟩))
    · rw [if_neg (by simpa [hreq] using hr)]
      by_cases hf : name ∈ ["GET", "HEAD"] ∧ body.isSome
      · rw [if_pos (by simp [hforb.2 hf.1, hf.2])]
        exact .inr (.inr (.inr ⟨hn, hf.1, hf.2, rfl⟩))
      · rw [if_neg (by simpa [hforb] using hf)]
        refine .inl ⟨hn, ⟨fun h => ?_, fun h => ?_⟩, rfl⟩
        · exact Option.isSome_iff_ne_none.2 fun hb => hr ⟨h, hb⟩
        · exact Option.not_isSome_iff_eq_none.1 fun hb => hf ⟨h, hb⟩
  · have hm : Method.ofName? name = none := if_neg (mt (isToken_encode_iff name).1 hn)
    refine .inr (.inl ⟨hn, ?_⟩)
    unfold setMethod checkMethod
    rw [hm]

/-! ## Requests -/

/-- A change of a request. -/
inductive Change
  | url (url : Url)
  | method (name : String) (body : Option Payload)
  | headers (edit : HeaderList.Edit)

def Change.apply (r : Request) : Change → Request
  | .url u => r.setUrl u
  | .method name body => (r.setMethod name body).2
  | .headers (.add name value) => r.addHeader name value
  | .headers (.set name value) => r.setHeader name value
  | .headers edit => { r with headers := edit.apply r.headers }

/-- The request after some changes. -/
def after (r : Request) (changes : List Change) : Request := changes.foldl Change.apply r

/-- The method has a body if it needs one, and none if it must not have one; and how the next method
is set. -/
structure Governed (r : Request) : Prop where
  fits : Fits r.method.name r.body
  /-- A method is set exactly if its name is one and the body fits. -/
  sets_iff : ∀ name body, (r.setMethod name body).1 = .ok () ↔ IsMethodName name ∧ Fits name body
  /-- Name and body are then the new ones, and all else stays. -/
  sets : ∀ name body, (r.setMethod name body).1 = .ok () →
    (r.setMethod name body).2 = { r with method := ⟨name⟩, body := body }
  /-- A failure leaves the request as it was. -/
  refuses : ∀ name body fault, (r.setMethod name body).1 = .error fault →
    (r.setMethod name body).2 = r ∧ ∃ cause, fault = .config cause

theorem not_fits_of_missing (hr : name ∈ ["POST", "PUT", "PATCH"]) (hb : body = none) :
    ¬ Fits name body := by
  intro h
  have := h.required hr
  rw [hb] at this
  cases this

theorem not_fits_of_unexpected (hf : name ∈ ["GET", "HEAD"]) (hb : body.isSome) :
    ¬ Fits name body := by
  intro h
  rw [h.forbidden hf] at hb
  cases hb

theorem governed_of_fits (h : Fits r.method.name r.body) : Governed r := by
  refine ⟨h, fun name body => ?sets_iff, fun name body ho => ?sets,
    fun name body fault he => ?refuses⟩
  case sets_iff =>
    rcases r.setMethod_cases name body with
      ⟨hn, hf, hs⟩ | ⟨hn, hs⟩ | ⟨-, hr, hb, hs⟩ | ⟨-, hf, hb, hs⟩ <;> rw [hs]
    · exact iff_of_true rfl ⟨hn, hf⟩
    · exact iff_of_false nofun fun h => hn h.1
    · exact iff_of_false nofun fun h => not_fits_of_missing hr hb h.2
    · exact iff_of_false nofun fun h => not_fits_of_unexpected hf hb h.2
  case sets =>
    rcases r.setMethod_cases name body with
      ⟨-, -, hs⟩ | ⟨-, hs⟩ | ⟨-, -, -, hs⟩ | ⟨-, -, -, hs⟩ <;> rw [hs] at ho ⊢ <;> cases ho
  case refuses =>
    rcases r.setMethod_cases name body with
      ⟨-, -, hs⟩ | ⟨-, hs⟩ | ⟨-, -, -, hs⟩ | ⟨-, -, -, hs⟩ <;> rw [hs] at he ⊢ <;> cases he <;>
      exact ⟨rfl, _, rfl⟩

/-- A change keeps method and body fit for each other. -/
theorem fits_apply (h : Fits r.method.name r.body) (c : Change) :
    Fits (c.apply r).method.name (c.apply r).body := by
  cases c with
  | url u => exact h
  | headers edit => cases edit <;> exact h
  | method name body =>
    show Fits (r.setMethod name body).2.method.name (r.setMethod name body).2.body
    rcases r.setMethod_cases name body with
      ⟨-, hf, hs⟩ | ⟨-, hs⟩ | ⟨-, -, -, hs⟩ | ⟨-, -, -, hs⟩ <;> rw [hs]
    · exact hf
    all_goals exact h

theorem fits_after (h : Fits r.method.name r.body) (changes : List Change) :
    Fits (r.after changes).method.name (r.after changes).body := by
  induction changes generalizing r with
  | nil => exact h
  | cons c changes ih => exact ih (fits_apply h c)

theorem fits_new : Fits new.method.name new.body := ⟨by decide, fun _ => rfl⟩

/-- **Method and body fit** after any changes of a new request, and go together from there. -/
theorem governed_after (changes : List Change) : Governed (new.after changes) :=
  governed_of_fits (fits_after fits_new changes)

end Request

end Refetch
