/-
  Shakedown.Proofs.Stub.Sizes

  How large the documents are that a run sends.  A stub takes no body of more
  than 2 MiB.  An order of a token is as large as its name and its scopes make
  it: all timestamps with a year of four digits are equally long.  An order of
  a container grows with the digits of the moment in its name.
-/
import Shakedown.Proofs.Stub.Network
import Shakedown.Proofs.Text.Cut
import Shakedown.Proofs.Time.Timestamp
import Shakedown.Scenario.Basic
import Shakedown.Token.Issue

namespace Shakedown

open Text

/-! ## Timestamps in documents -/

/-- A character of a timestamp. -/
def IsStampChar (c : Char) : Prop :=
  Decimal.isDigit c = true ∨ c ∈ "-T:.Z".toList

/-- A timestamp with a year of four digits has 24 characters, all of them plain. -/
theorem Moment.plain_timestamp {m : Moment} (hyear : 0 ≤ m.year) (hyear' : m.year ≤ 9999) :
    m.timestamp.toList.length = 24 ∧ ∀ c ∈ m.timestamp.toList, IsStampChar c := by
  have hchars : m.timestamp.toList = _ := String.toList_ofList
  rw [secondsText] at hchars
  unfold year at hyear hyear'
  rw [hchars, yearText, if_pos ⟨hyear, hyear'⟩]
  constructor
  · simp only [List.length_append, List.length_cons, List.length_nil, Time.Rfc3339.length_padded]
  · have hdigits : ∀ w n, ∀ c ∈ Decimal.padded w n, IsStampChar c := fun w n c hc =>
      Or.inl (Time.Rfc3339.all_isDigit_padded w n c hc)
    have hmarks : ∀ c ∈ "-T:.Z".toList, IsStampChar c := fun c hc => Or.inr hc
    have hhyphen := hmarks '-' (by decide)
    have ht := hmarks 'T' (by decide)
    have hcolon := hmarks ':' (by decide)
    have hpoint := hmarks '.' (by decide)
    have hz := hmarks 'Z' (by decide)
    simp only [List.forall_mem_append, List.forall_mem_cons, hhyphen, ht, hcolon, hpoint, hz,
      true_and]
    simp only [List.not_mem_nil, false_imp_iff, implies_true, and_true]
    exact ⟨⟨⟨⟨⟨⟨hdigits _ _, hdigits _ _⟩, hdigits _ _⟩, hdigits _ _⟩, hdigits _ _⟩, hdigits _ _⟩,
      hdigits _ _⟩

/-- Such a character stands for itself in a literal, in one byte. -/
theorem escapeChar_of_stamp {c : Char} (h : IsStampChar c) :
    Json.escapeChar c = [c] ∧ c.utf8Size = 1 := by
  have hrange : 45 ≤ c.toNat ∧ c.toNat ≤ 90 := by
    rcases h with hdigit | hmark
    · simp only [Decimal.isDigit, Bool.and_eq_true, decide_eq_true_eq] at hdigit
      omega
    · have hall : ∀ d ∈ "-T:.Z".toList, 45 ≤ d.toNat ∧ d.toNat ≤ 90 :=
        List.all_iff_forall_prop.mp (by decide)
      exact hall c hmark
  have hother : ∀ d : Char, d.toNat < 45 ∨ 90 < d.toNat → c ≠ d := by
    rintro d hd rfl
    omega
  constructor
  · rw [Json.escapeChar, if_neg (hother _ (by decide)), if_neg (hother _ (by decide)),
      if_neg (hother _ (by decide)), if_neg (hother _ (by decide)), if_neg (hother _ (by decide)),
      if_neg (by omega), if_neg (by omega), if_neg (by omega)]
  · have hval : c.val ≤ 0x7F := UInt32.le_iff_toNat_le.mpr (Nat.le_trans hrange.2 (by decide))
    exact if_pos hval

/-- So a literal has one more byte for each such character at its end, -/
theorem size_literal_append (s : String) {t : String} (h : ∀ c ∈ t.toList, IsStampChar c) :
    (Json.literal (s ++ t)).utf8ByteSize = (Json.literal s).utf8ByteSize + t.toList.length := by
  have hsize : ∀ cs : List Char, (∀ c ∈ cs, IsStampChar c) →
      Utf8.size (cs.flatMap Json.escapeChar) = cs.length := by
    intro cs h
    induction cs with
    | nil => rfl
    | cons c cs ih =>
      obtain ⟨hc, hcs⟩ := List.forall_mem_cons.mp h
      obtain ⟨hescape, hone⟩ := escapeChar_of_stamp hc
      rw [List.flatMap_cons, hescape, List.singleton_append, Utf8.size, hone, ih hcs,
        List.length_cons, Nat.add_comm]
  have hliteral : ∀ s : String, (Json.literal s).utf8ByteSize =
      Utf8.size (s.toList.flatMap Json.escapeChar) + 2 := by
    intro s
    have hquote : Utf8.size ['"'] = 1 := rfl
    rw [Json.literal, ← Utf8.size_eq_utf8ByteSize, List.cons_append, ← List.singleton_append,
      Utf8.size_append, Utf8.size_append, hquote]
    omega
  rw [hliteral, hliteral, String.toList_append, List.flatMap_append, Utf8.size_append,
    hsize t.toList h]
  omega

/-- and one of such characters alone has two bytes more than there are characters. -/
theorem size_literal {s : String} (h : ∀ c ∈ s.toList, IsStampChar c) :
    (Json.literal s).utf8ByteSize = s.toList.length + 2 := by
  have hempty : (Json.literal "").utf8ByteSize = 2 := by decide +kernel
  have happend := size_literal_append "" h
  rw [String.empty_append, hempty] at happend
  omega

/-! ## Orders of tokens -/

/-- The number of bytes that a request sends. -/
def Request.size (r : Request) : Nat :=
  (Stub.writtenBody r.document?).length

theorem Stub.fits_iff {r : Request} : Fits r ↔ r.size ≤ bodyLimit := Iff.rfl

/-- The number of bytes that an order of a token takes, whenever it is made. -/
def TokenParameters.orderSize (request : TokenParameters) : Nat :=
  (Request.issueToken (Token.order request ⟨0, 0⟩)).size

/-- An order tells a name, scopes and an expiry. -/
theorem Token.text_order (request : TokenParameters) (e : Moment) :
    (order request e).toJson.text =
      "\x7b" ++ ((Json.literal "name" ++ ":" ++ Json.literal request.name) ++ "," ++
        ((Json.literal "scopes" ++ ":" ++ (Json.list .string request.scopes).text) ++ "," ++
          (Json.literal "expires_at" ++ ":" ++ Json.literal e.timestamp))) ++ "\x7d" := rfl

/-- Its size is that of the literals of these, and of what stands around them. -/
theorem Token.size_order_eq (request : TokenParameters) (e : Moment) :
    (Request.issueToken (order request e)).size =
      (Json.literal request.name).utf8ByteSize +
        (Json.list .string request.scopes).text.utf8ByteSize +
        (Json.literal e.timestamp).utf8ByteSize + 33 := by
  have hsize : (Request.issueToken (order request e)).size =
      (order request e).toJson.text.utf8ByteSize := rfl
  have hwords : (Json.literal "name").utf8ByteSize + (Json.literal "scopes").utf8ByteSize +
      (Json.literal "expires_at").utf8ByteSize = 26 := by decide +kernel
  have hmarks : "\x7b".utf8ByteSize = 1 ∧ "\x7d".utf8ByteSize = 1 ∧ ":".utf8ByteSize = 1 ∧
      ",".utf8ByteSize = 1 := by decide +kernel
  rw [hsize, text_order]
  simp only [String.utf8ByteSize_append]
  omega

/-- The literal of a timestamp is always equally long. -/
theorem Moment.size_timestamp {m : Moment} (hyear : 0 ≤ m.year) (hyear' : m.year ≤ 9999) :
    (Json.literal m.timestamp).utf8ByteSize = 26 := by
  obtain ⟨hlength, hplain⟩ := plain_timestamp hyear hyear'
  rw [size_literal hplain, hlength]

/-- So the size of an order does not depend on its expiry. -/
theorem Token.size_order (request : TokenParameters) {expiresAt : Moment}
    (hyear : 0 ≤ expiresAt.year) (hyear' : expiresAt.year ≤ 9999) :
    (Request.issueToken (order request expiresAt)).size = request.orderSize := by
  have hstart : (Json.literal (⟨0, 0⟩ : Moment).timestamp).utf8ByteSize = 26 :=
    Moment.size_timestamp (by decide +kernel) (by decide +kernel)
  rw [TokenParameters.orderSize, size_order_eq, size_order_eq,
    Moment.size_timestamp hyear hyear', hstart]

/-- The name of a token makes its order larger. -/
theorem Token.size_name_lt (request : TokenParameters) :
    (Json.literal request.name).utf8ByteSize < request.orderSize := by
  rw [TokenParameters.orderSize, size_order_eq]
  omega

/-! ## Orders of containers -/

/-- The number of bytes that an order of a container takes, without the moment in its name. -/
def ScenarioParameters.orderSize (config : ScenarioParameters) : Nat :=
  (Request.createContainer
    { name := config.resourcePrefix ++ "-", platform := config.platform }).size

/-- Digits stand for themselves in a literal, and so does a sign. -/
theorem isStampChar_signedText (n : Int) :
    ∀ c ∈ (Decimal.signedText n).toList, IsStampChar c := by
  have hdigits : ∀ m : Nat, ∀ c ∈ (Decimal.text m).toList, IsStampChar c := by
    intro m c hc
    rw [Decimal.text, String.toList_ofList] at hc
    exact Or.inl (List.all_eq_true.mp (Decimal.all_isDigit_digits m) c hc)
  cases n with
  | ofNat m => exact hdigits m
  | negSucc m =>
    rw [Decimal.signedText, String.toList_append]
    intro c hc
    rcases List.mem_append.mp hc with hsign | hdigit
    · obtain rfl : c = '-' := List.mem_singleton.mp hsign
      exact Or.inr (by decide)
    · exact hdigits (m + 1) c hdigit

/-- The order of a container is as large as the digits of its moment make it. -/
theorem ScenarioParameters.size_creation (config : ScenarioParameters) (now : Moment) :
    (Request.createContainer
        { name := config.resourceName now, platform := config.platform }).size =
      config.orderSize + (Decimal.signedText now.millis).toList.length := by
  have htext : ∀ name : String,
      (Request.createContainer { name, platform := config.platform }).size =
        ("\x7b" ++ ((Json.literal "name" ++ ":" ++ Json.literal name) ++ "," ++
          (Json.literal "platform" ++ ":" ++ Json.literal config.platform)) ++
            "\x7d").utf8ByteSize := fun _ => rfl
  have hname := size_literal_append (config.resourcePrefix ++ "-")
    (isStampChar_signedText now.millis)
  rw [orderSize, htext, htext, resourceName]
  simp only [String.utf8ByteSize_append] at hname ⊢
  omega

/-- A number below a power of ten has no more digits than that has zeros. -/
theorem length_digits_le {n w : Nat} (h : n < 10 ^ (w + 1)) :
    (Decimal.digits n).length ≤ w + 1 := by
  induction w generalizing n with
  | zero =>
    have hsmall : n < 10 := by simpa using h
    rw [Decimal.digits, if_pos hsmall]
    exact Nat.le_refl 1
  | succ w ih =>
    rw [Decimal.digits]
    split
    · exact Nat.le_add_left 1 _
    · have hrest : n / 10 < 10 ^ (w + 1) := by
        rw [Nat.pow_succ] at h
        omega
      rw [List.length_append, List.length_singleton]
      exact Nat.succ_le_succ (ih hrest)

end Shakedown
