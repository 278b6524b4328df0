/-
  Shakedown.Proofs.Bind

  The texts that are read as listening addresses.  A host is a name without a
  colon or something in brackets, and which characters it is made of is left
  open: with every character but blanks, the grammar tells exactly what is
  read.  A square bracket is such a character like any other, so it may stand
  alone in a name and again inside of brackets.

  What is written for an address spells it if its host is one that can be
  read, so an address that was read reads back.
-/
import Shakedown.Bind
import Shakedown.Proofs.Net.Address
import Shakedown.Proofs.Text.Blank
import Shakedown.Proofs.Text.Decimal

namespace Shakedown.Bind

open Text
open Text.Decimal (Unsigned)

variable {plain strict : Char → Prop} {host cs : List Char} {raw : String} {b b' : Bind}

/-! ## The grammar -/

/-- A host made of some characters: a name without a colon, or something in brackets. -/
inductive IsHost (plain : Char → Prop) : List Char → Prop where
  | name {host : List Char} (hne : host ≠ []) (h : ∀ c ∈ host, plain c ∧ c ≠ ':') :
      IsHost plain host
  | bracketed {inner : List Char} (hne : inner ≠ []) (h : ∀ c ∈ inner, plain c) :
      IsHost plain ('[' :: (inner ++ [']']))

/-- A text that is a host, a colon and a port number, with blanks around them. -/
inductive Spells (plain : Char → Prop) : List Char → Bind → Prop where
  | mk {before after number : List Char} {b : Bind} (hbefore : ∀ c ∈ before, isBlank c = true)
      (hafter : ∀ c ∈ after, isBlank c = true) (hhost : IsHost plain b.host.toList)
      (hport : Unsigned number b.port.toNat) :
      Spells plain (before ++ (b.host.toList ++ ':' :: number) ++ after) b

/-- A character that is not blank. -/
def IsSolid (c : Char) : Prop :=
  isBlank c = false

/-- A character that is neither blank nor a square bracket. -/
def IsUnbracketed (c : Char) : Prop :=
  isBlank c = false ∧ c ≠ '[' ∧ c ≠ ']'

theorem IsHost.mono (h : IsHost strict host) (hle : ∀ c, strict c → plain c) :
    IsHost plain host := by
  cases h with
  | name hne h => exact .name hne fun c hc => ⟨hle c (h c hc).1, (h c hc).2⟩
  | bracketed hne h => exact .bracketed hne fun c hc => hle c (h c hc)

theorem Spells.mono (h : Spells strict cs b) (hle : ∀ c, strict c → plain c) :
    Spells plain cs b := by
  cases h with
  | mk hbefore hafter hhost hport => exact .mk hbefore hafter (hhost.mono hle) hport

theorem Spells.isHost (h : Spells plain cs b) : IsHost plain b.host.toList := by
  cases h with
  | mk hbefore hafter hhost hport => exact hhost

/-! ## Characters -/

theorem IsHost.solid (h : IsHost IsSolid host) : ∀ c ∈ host, isBlank c = false := by
  cases h with
  | name _ h => exact fun c hc => (h c hc).1
  | bracketed _ h =>
    refine List.forall_mem_cons.mpr ⟨by decide, List.forall_mem_append.mpr ⟨h, ?_⟩⟩
    exact List.forall_mem_singleton.mpr (by decide)

theorem colon_not_mem_of_unsigned {n : Nat} (h : Unsigned cs n) : ':' ∉ cs := fun hc =>
  (h.mem hc).elim (by decide) (by decide)

/-- There is no blank between host and port number. -/
theorem solid_of_host_port {number : List Char} {n : Nat} (hhost : IsHost IsSolid host)
    (hport : Unsigned number n) : ∀ c ∈ host ++ ':' :: number, isBlank c = false :=
  List.forall_mem_append.mpr
    ⟨hhost.solid, List.forall_mem_cons.mpr ⟨by decide, hport.solid⟩⟩

/-! ## Hosts -/

theorem isBracketed_eq_true_iff :
    isBracketed host = true ↔ ∃ inner, inner ≠ [] ∧ host = '[' :: (inner ++ [']']) := by
  simp only [isBracketed, Bool.and_eq_true, beq_iff_eq, decide_eq_true_eq]
  constructor
  · rintro ⟨⟨hhead, hlast⟩, hlength⟩
    -- The first and the last character are two, so the length only keeps `[]` out.
    obtain ⟨rest, rfl⟩ := List.head?_eq_some_iff.mp hhead
    obtain ⟨front, hfront⟩ := List.getLast?_eq_some_iff.mp hlast
    cases front with
    | nil => exact absurd (List.cons.inj hfront).1 (by decide)
    | cons c inner =>
      obtain ⟨rfl, rfl⟩ := List.cons.inj hfront
      refine ⟨inner, ?_, rfl⟩
      rintro rfl
      exact absurd hlength (by decide)
  · rintro ⟨inner, hne, rfl⟩
    have hpos : 0 < inner.length := List.length_pos_iff.mpr hne
    refine ⟨⟨rfl, ?_⟩, ?_⟩
    · rw [← List.cons_append, List.getLast?_concat]
    · rw [List.length_cons, List.length_append, List.length_singleton]
      omega

/-- The texts that are allowed before the colon are the hosts without blanks. -/
theorem hostAllowed_eq_true_iff : hostAllowed host = true ↔ IsHost IsSolid host := by
  have hconditions : hostAllowed host = true ↔
      host ≠ [] ∧ (':' ∉ host ∨ isBracketed host = true) ∧ ∀ c ∈ host, isBlank c = false := by
    simp only [hostAllowed, Bool.and_eq_true, Bool.or_eq_true, Bool.not_eq_true',
      List.isEmpty_eq_false_iff, List.any_eq_false, Bool.not_eq_true, and_assoc]
    rw [List.contains_eq_mem, decide_eq_false_iff_not]
  rw [hconditions]
  constructor
  · rintro ⟨hne, hcolon, hsolid⟩
    by_cases hmem : ':' ∈ host
    · obtain ⟨inner, hinner, rfl⟩ :=
        isBracketed_eq_true_iff.mp (hcolon.resolve_left (not_not_intro hmem))
      refine .bracketed hinner fun c hc => hsolid c ?_
      exact List.mem_cons_of_mem _ (List.mem_append_left _ hc)
    · exact .name hne fun c hc => ⟨hsolid c hc, fun heq => hmem (heq ▸ hc)⟩
  · intro h
    have hsolid := h.solid
    cases h with
    | name hne h => exact ⟨hne, Or.inl fun hmem => (h ':' hmem).2 rfl, hsolid⟩
    | bracketed hne h =>
      exact ⟨List.cons_ne_nil _ _, Or.inr (isBracketed_eq_true_iff.mpr ⟨_, hne, rfl⟩), hsolid⟩

/-! ## Reading -/

theorem readChars?_eq_some_iff {n : Nat} :
    readChars? cs = some (host, n) ↔ ∃ number, trim cs = host ++ ':' :: number ∧
      IsHost IsSolid host ∧ Unsigned number n ∧ n ≤ 65535 := by
  unfold readChars?
  constructor
  · intro h
    obtain ⟨⟨left, number⟩, hcut, h⟩ := Option.bind_eq_some_iff.mp h
    obtain ⟨port, hport, h⟩ := Option.bind_eq_some_iff.mp h
    split at h
    · rename_i hallowed
      obtain ⟨rfl, rfl⟩ := Prod.mk.inj (Option.some.inj h)
      obtain ⟨hnumber, hle⟩ := Decimal.readUpTo?_eq_some_iff.mp hport
      exact ⟨number, (Net.cutAtLast_eq_some_iff.mp hcut).1,
        hostAllowed_eq_true_iff.mp hallowed, hnumber, hle⟩
    · exact nomatch h
  · rintro ⟨number, htrim, hhost, hnumber, hle⟩
    -- A number holds no colon, so the one before it is the last.
    have hcut : Net.cutAtLast ':' (trim cs) = some (host, number) :=
      Net.cutAtLast_eq_some_iff.mpr ⟨htrim, colon_not_mem_of_unsigned hnumber⟩
    have hport : Decimal.readUpTo? 65535 number = some n :=
      Decimal.readUpTo?_eq_some_iff.mpr ⟨hnumber, hle⟩
    rw [hcut]
    simp only [Option.bind_eq_bind, Option.bind_some, hport]
    rw [if_pos (hostAllowed_eq_true_iff.mpr hhost)]

theorem read_eq_ok_iff_readChars? :
    read raw = .ok b ↔ readChars? raw.toList = some (b.host.toList, b.port.toNat) := by
  rw [read]
  constructor
  · intro h
    split at h
    · rename_i host n hread
      obtain ⟨-, -, -, -, hle⟩ := readChars?_eq_some_iff.mp hread
      have hport : (UInt16.ofNat n).toNat = n :=
        UInt16.toNat_ofNat'.trans (Nat.mod_eq_of_lt (Nat.lt_succ_of_le hle))
      rw [hread, ← Except.ok.inj h, String.toList_ofList, hport]
    · exact nomatch h
  · intro h
    rw [h]
    dsimp only
    rw [String.ofList_toList, UInt16.ofNat_toNat]

/-- An address is read from exactly the texts that spell it. -/
theorem read_eq_ok_iff : read raw = .ok b ↔ Spells IsSolid raw.toList b := by
  rw [read_eq_ok_iff_readChars?, readChars?_eq_some_iff]
  constructor
  · rintro ⟨number, htrim, hhost, hport, -⟩
    obtain ⟨before, after, hbefore, hafter, hraw⟩ :=
      (trim_eq_iff_of_no_blank (solid_of_host_port hhost hport)).mp htrim
    rw [hraw]
    exact .mk hbefore hafter hhost hport
  · intro h
    -- The pattern of `Spells` cannot be met by the characters of a string that is a variable.
    generalize hcs : raw.toList = cs at h
    cases h with
    | mk hbefore hafter hhost hport =>
      exact ⟨_, trim_of_solid hbefore hafter (solid_of_host_port hhost hport), hhost, hport,
        Nat.le_of_lt_succ b.port.toNat_lt⟩

/-- A text spells one address at most. -/
theorem Spells.unique (h : Spells IsSolid raw.toList b) (h' : Spells IsSolid raw.toList b') :
    b = b' :=
  Except.ok.inj ((read_eq_ok_iff.mpr h).symm.trans (read_eq_ok_iff.mpr h'))

theorem eq_of_read_error {bad : BadBind} (h : read raw = .error bad) : bad = ⟨raw⟩ := by
  rw [read] at h
  split at h
  · exact nomatch h
  · exact (Except.error.inj h).symm

/-- A text that spells no address is refused, and told as it was given, blanks included. -/
theorem read_eq_error_iff {bad : BadBind} :
    read raw = .error bad ↔ bad = ⟨raw⟩ ∧ ∀ b, ¬Spells IsSolid raw.toList b := by
  constructor
  · intro h
    refine ⟨eq_of_read_error h, fun b hspells => ?_⟩
    rw [read_eq_ok_iff.mpr hspells] at h
    exact nomatch h
  · rintro ⟨rfl, hnone⟩
    cases hread : read raw with
    | ok b => exact absurd (read_eq_ok_iff.mp hread) (hnone b)
    | error bad => rw [eq_of_read_error hread]

/-- A text is read as a listening address exactly if it is a host, a colon and a port number,
with blanks around them, and the host is a name or something in brackets; whether a bare pair
of brackets is a host is left open.  Any other text is refused, and told as it was given. -/
theorem read_grammar (raw : String) :
    (∀ b, b.host ≠ "[]" → (read raw = .ok b ↔ Spells IsSolid raw.toList b)) ∧
    ((∀ b, ¬Spells IsSolid raw.toList b) → read raw = .error ⟨raw⟩) ∧
    ∀ bad, read raw = .error bad → bad = ⟨raw⟩ := by
  refine ⟨?_, ?_, ?_⟩
  · intro b _
    exact read_eq_ok_iff
  · intro hnone
    exact read_eq_error_iff.mpr ⟨rfl, hnone⟩
  · intro bad hread
    exact eq_of_read_error hread

/-- Where brackets are only allowed around a host, one inside of it tells that it starts with
one. -/
theorem IsHost.head?_of_bracket (h : IsHost IsUnbracketed host) (hmem : '[' ∈ host) :
    host.head? = some '[' := by
  cases h with
  | name hne h => exact absurd rfl (h '[' hmem).1.2.1
  | bracketed hne h => rfl

/-- A name may hold a bracket: this one is read, and no host in which brackets only stand around
it is spelled. -/
theorem lone_bracket_taken :
    read "a[b:80" = .ok ⟨"a[b", 80⟩ ∧ ∀ b, ¬Spells IsUnbracketed "a[b:80".toList b := by
  have hread : read "a[b:80" = .ok ⟨"a[b", 80⟩ := by decide +kernel
  refine ⟨hread, fun b hstrict => ?_⟩
  have hspells : Spells IsSolid "a[b:80".toList b := hstrict.mono fun c hc => hc.1
  obtain rfl : b = ⟨"a[b", 80⟩ := hspells.unique (read_eq_ok_iff.mp hread)
  have hhead := hstrict.isHost.head?_of_bracket (show '[' ∈ "a[b".toList by decide)
  exact absurd hhead (show "a[b".toList.head? ≠ some '[' by decide)

/-! ## Writing and reading back -/

theorem toList_text (b : Bind) :
    b.text.toList = [] ++ (b.host.toList ++ ':' :: Decimal.digits b.port.toNat) ++ [] := by
  rw [text, String.toList_ofList, chars, List.nil_append, List.append_nil]

/-- What is written for an address reads back exactly if its host is one. -/
theorem read_text_eq_ok_iff : read b.text = .ok b ↔ IsHost IsSolid b.host.toList := by
  constructor
  · intro h
    exact (read_eq_ok_iff.mp h).isHost
  · intro h
    rw [read_eq_ok_iff, toList_text]
    exact .mk nofun nofun h (Decimal.unsigned_digits b.port.toNat)

theorem isUnbracketed_of_isAddressChar {c : Char} (h : Net.IsAddressChar c) :
    IsUnbracketed c := by
  rcases h with hhex | rfl | rfl
  · have hcode : (48 ≤ c.toNat ∧ c.toNat ≤ 57) ∨ (97 ≤ c.toNat ∧ c.toNat ≤ 102) ∨
        (65 ≤ c.toNat ∧ c.toNat ≤ 70) := by
      unfold Hex.value? at hhex
      simp only [Bool.and_eq_true, decide_eq_true_eq] at hhex
      split at hhex
      · omega
      · split at hhex
        · omega
        · split at hhex
          · omega
          · exact nomatch hhex
    refine ⟨isBlank_of_solid (by omega), ?_, ?_⟩
    · rintro rfl
      exact absurd hcode (by decide)
    · rintro rfl
      exact absurd hcode (by decide)
  · exact ⟨by decide, by decide, by decide⟩
  · exact ⟨by decide, by decide, by decide⟩

/-- The host of a socket address has no brackets but those around an IPv6 address. -/
theorem isHost_ofSocket (socket : Net.Socket) :
    IsHost IsUnbracketed (ofSocket socket).host.toList := by
  cases socket with
  | v4 ip port =>
    rw [ofSocket, String.toList_ofList]
    have hne : ip.chars ≠ [] := by
      rw [Net.Ipv4.chars]
      exact List.append_ne_nil_of_right_ne_nil _ (List.cons_ne_nil _ _)
    refine .name hne fun c hc => ?_
    rcases Net.Ipv4.mem_chars hc with rfl | hdigit
    · exact ⟨isUnbracketed_of_isAddressChar (Or.inr (Or.inr rfl)), by decide⟩
    · refine ⟨isUnbracketed_of_isAddressChar (Net.isAddressChar_of_isDigit hdigit), ?_⟩
      rintro rfl
      exact absurd hdigit (by decide)
  | v6 ip port =>
    rw [ofSocket, String.toList_ofList]
    exact .bracketed ip.chars_ne_nil fun c hc =>
      isUnbracketed_of_isAddressChar (Net.Ipv6.isAddressChar_of_mem_chars hc)

/-- The text of an address reads back exactly if the address can be read at all; so what was
read reads back from its own text, whatever it was read from, and so does the address of every
socket. -/
theorem text_round_trip :
    (∀ host port, read (⟨host, port⟩ : Bind).text = .ok ⟨host, port⟩ ↔
      ∃ raw, read raw = .ok ⟨host, port⟩) ∧
    (∀ raw b, read raw = .ok b → read b.text = .ok b) ∧
    ∀ socket, read (ofSocket socket).text = .ok (ofSocket socket) ∧
      (ofSocket socket).port = socket.port := by
  have hback : ∀ raw b, read raw = .ok b → read b.text = .ok b := by
    intro raw b hread
    exact read_text_eq_ok_iff.mpr (read_eq_ok_iff.mp hread).isHost
  refine ⟨fun host port => ⟨fun h => ⟨_, h⟩, ?_⟩, hback, fun socket => ⟨?_, ?_⟩⟩
  · rintro ⟨raw, hread⟩
    exact hback raw _ hread
  · exact read_text_eq_ok_iff.mpr ((isHost_ofSocket socket).mono fun c hc => hc.1)
  · cases socket <;> rfl

end Shakedown.Bind
