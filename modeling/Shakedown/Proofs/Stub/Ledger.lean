/-
  Shakedown.Proofs.Stub.Ledger

  The ledger of the tokens that a stub agent grants.  The identifiers that it
  has granted are those of its live tokens and those that it has revoked, each
  once; and as long as the identifiers it draws differ from one another, no
  two tokens share an identifier or a secret.  Everything that a stub does
  keeps its ledger, so it is kept in every history.
-/
import Shakedown.Proofs.Stub.History
import Shakedown.Proofs.Uuid

namespace Shakedown

variable {o : StubProfile} {s : StubStore} {fresh : Nat → Uuid} {events more : List StubEvent}
  {ids : List Uuid} {number m n : Nat}

/-! ## Drawing identifiers -/

/-- The first so many identifiers that are drawn differ from one another. -/
def DistinctDraws (fresh : Nat → Uuid) (n : Nat) : Prop :=
  ∀ i < n, ∀ j < n, fresh i = fresh j → i = j

theorem DistinctDraws.of_le (h : DistinctDraws fresh n) (hle : m ≤ n) : DistinctDraws fresh m :=
  fun i hi j hj => h i (Nat.lt_of_lt_of_le hi hle) j (Nat.lt_of_lt_of_le hj hle)

theorem distinctDraws_ofNat (h : n ≤ Nat.pow 2 128) : DistinctDraws Uuid.ofNat n := by
  intro i hi j hj heq
  have hvalues : i % Nat.pow 2 128 = j % Nat.pow 2 128 := congrArg Uuid.value heq
  rwa [Nat.mod_eq_of_lt (Nat.lt_of_lt_of_le hi h),
    Nat.mod_eq_of_lt (Nat.lt_of_lt_of_le hj h)] at hvalues

/-- Secrets of different identifiers are different. -/
theorem Stub.secretOf_inj {u v : Uuid} (h : secretOf u = secretOf v) : u = v := by
  have hchars : ∀ w : Uuid, (secretOf w).toList = "orbit_".toList ++ w.simple := fun w => by
    rw [secretOf, String.toList_append, String.toList_ofList (l := w.simple)]
  have hsimple : u.simple = v.simple := by
    have hlists := congrArg String.toList h
    rw [hchars, hchars] at hlists
    exact List.append_cancel_left hlists
  have hu := Uuid.ofDigits?_simple u
  rw [hsimple, Uuid.ofDigits?_simple v] at hu
  exact (Option.some.inj hu).symm

/-- A token's identifier and its secret were drawn one after the other. -/
def Minted (fresh : Nat → Uuid) (n : Nat) (id : Uuid) (secret : String) : Prop :=
  ∃ i, i + 1 < n ∧ id = fresh i ∧ secret = Stub.secretOf (fresh (i + 1))

theorem Minted.of_le {id : Uuid} {secret : String} (h : Minted fresh m id secret) (hle : m ≤ n) :
    Minted fresh n id secret := by
  obtain ⟨i, hi, hid, hsecret⟩ := h
  exact ⟨i, Nat.lt_of_lt_of_le hi hle, hid, hsecret⟩

/-- A secret tells the identifier of its token. -/
theorem Minted.unique (hdistinct : DistinctDraws fresh n) {id id' : Uuid} {secret : String}
    (h : Minted fresh n id secret) (h' : Minted fresh n id' secret) : id = id' := by
  obtain ⟨i, hi, rfl, rfl⟩ := h
  obtain ⟨j, hj, rfl, hsecret⟩ := h'
  have hij := hdistinct _ hi _ hj (Stub.secretOf_inj hsecret)
  rw [Nat.add_right_cancel hij]

/-! ## The ledger of a store -/

/-- The identifier of the token that an answer grants. -/
def StubReply.grantedId? (reply : StubReply) : Option Uuid :=
  reply.grant?.bind TokenGrant.id

/-- A store keeps the ledger of the identifiers that were granted. -/
structure StubStore.Keeps (s : StubStore) (fresh : Nat → Uuid) (ids : List Uuid) : Prop where
  minted : ∀ t ∈ s.tokens, Minted fresh s.drawn t.id t.secret
  drawn : ∀ id ∈ ids, ∃ i < s.drawn, id = fresh i
  distinct : ids.Nodup
  balance : (s.tokens.map GrantedToken.id ++ s.revoked).Perm ids
  issued : s.issued.length = ids.length
  known : ∀ t ∈ s.tokens, ∀ scope ∈ t.scopes, scope ∈ stubScopes

namespace StubStore.Keeps

theorem empty (fresh : Nat → Uuid) : ({} : StubStore).Keeps fresh [] :=
  ⟨nofun, nofun, List.nodup_nil, List.Perm.refl _, rfl, nofun⟩

/-- What leaves the tokens alone keeps the ledger. -/
theorem of_same (h : s.Keeps fresh ids) {s' : StubStore} (htokens : s'.tokens = s.tokens)
    (hrevoked : s'.revoked = s.revoked) (hissued : s'.issued = s.issued)
    (hdrawn : s.drawn ≤ s'.drawn) : s'.Keeps fresh ids where
  minted t ht := (h.minted t (htokens ▸ ht)).of_le hdrawn
  drawn id hid := by
    obtain ⟨i, hi, heq⟩ := h.drawn id hid
    exact ⟨i, Nat.lt_of_lt_of_le hi hdrawn, heq⟩
  distinct := h.distinct
  balance := by rw [htokens, hrevoked]; exact h.balance
  issued := by rw [hissued]; exact h.issued
  known t ht := h.known t (htokens ▸ ht)

theorem nodup (h : s.Keeps fresh ids) : (s.tokens.map GrantedToken.id ++ s.revoked).Nodup :=
  h.balance.nodup_iff.mpr h.distinct

/-- No live token has been revoked. -/
theorem not_revoked (h : s.Keeps fresh ids) {t : GrantedToken} (ht : t ∈ s.tokens) :
    t.id ∉ s.revoked := fun hrevoked =>
  (List.nodup_append.mp h.nodup).2.2 _ (List.mem_map.mpr ⟨t, ht, rfl⟩) _ hrevoked rfl

/-- A new secret is none of those in use. -/
theorem tokens_issue (h : s.Keeps fresh ids) (hdistinct : DistinctDraws fresh (s.drawn + 2))
    (order : TokenOrder) (expiresAt : Moment) :
    (Stub.issue fresh s order expiresAt).1.tokens =
      s.tokens ++ [Stub.granting fresh s order expiresAt] := by
  have hall : s.tokens.filter
      (fun t => t.secret != Stub.secretOf (fresh (s.drawn + 1))) = s.tokens := by
    refine List.filter_eq_self.mpr fun t ht => ?_
    obtain ⟨i, hi, -, hsecret⟩ := h.minted t ht
    rw [bne_iff_ne, hsecret]
    intro heq
    have hij := hdistinct (i + 1) (by omega) (s.drawn + 1) (by omega) (Stub.secretOf_inj heq)
    omega
  rw [Stub.issue]
  dsimp only
  rw [hall]
  rfl

/-- A grant is entered in the ledger. -/
theorem issue (h : s.Keeps fresh ids) (hdistinct : DistinctDraws fresh (s.drawn + 2))
    {order : TokenOrder} (hknown : ∀ scope ∈ order.scopes, scope ∈ stubScopes)
    (expiresAt : Moment) :
    (Stub.issue fresh s order expiresAt).1.Keeps fresh (ids ++ [fresh s.drawn]) := by
  have htokens := h.tokens_issue hdistinct order expiresAt
  have hnew : fresh s.drawn ∉ ids := by
    intro hmem
    obtain ⟨i, hi, heq⟩ := h.drawn _ hmem
    have hij := hdistinct s.drawn (by omega) i (by omega) heq
    omega
  refine ⟨fun t ht => ?_, fun id hid => ?_, ?_, ?_, ?_, fun t ht => ?_⟩
  · rw [htokens] at ht
    rcases List.mem_append.mp ht with ht | ht
    · exact (h.minted t ht).of_le (Nat.le_add_right _ 2)
    · obtain rfl := List.mem_singleton.mp ht
      exact ⟨s.drawn, Nat.lt_succ_self _, rfl, rfl⟩
  · rcases List.mem_append.mp hid with hid | hid
    · obtain ⟨i, hi, heq⟩ := h.drawn id hid
      exact ⟨i, Nat.lt_of_lt_of_le hi (Nat.le_add_right _ 2), heq⟩
    · obtain rfl := List.mem_singleton.mp hid
      exact ⟨s.drawn, Nat.lt_add_of_pos_right Nat.two_pos, rfl⟩
  · rw [List.nodup_append]
    refine ⟨h.distinct, List.nodup_singleton _, fun id hid id' hid' => ?_⟩
    obtain rfl := List.mem_singleton.mp hid'
    exact fun heq => hnew (heq ▸ hid)
  · rw [htokens, List.map_append]
    have hmove : (s.tokens.map GrantedToken.id ++ [fresh s.drawn] ++ s.revoked).Perm
        (s.tokens.map GrantedToken.id ++ s.revoked ++ [fresh s.drawn]) := by
      rw [List.append_assoc, List.append_assoc]
      exact List.perm_append_comm.append_left _
    exact hmove.trans (h.balance.append_right _)
  · show (s.issued ++ [order]).length = _
    rw [List.length_append, List.length_append, h.issued]
    rfl
  · rw [htokens] at ht
    rcases List.mem_append.mp ht with ht | ht
    · exact h.known t ht
    · obtain rfl := List.mem_singleton.mp ht
      exact hknown

/-- A revocation moves an identifier from the live ones to the revoked ones. -/
theorem revoke (h : s.Keeps fresh ids) {id : Uuid} (hlive : ∃ t ∈ s.tokens, t.id = id) :
    StubStore.Keeps { s with
      tokens := s.tokens.filter (fun t => t.id != id)
      revoked := s.revoked ++ [id] } fresh ids := by
  obtain ⟨t, ht, hid⟩ := hlive
  have hnodup : (s.tokens.map GrantedToken.id).Nodup := (List.nodup_append.mp h.nodup).1
  have hmem : id ∈ s.tokens.map GrantedToken.id := List.mem_map.mpr ⟨t, ht, hid⟩
  have hrest : (s.tokens.filter fun t => t.id != id).map GrantedToken.id =
      (s.tokens.map GrantedToken.id).erase id := by
    rw [hnodup.erase_eq_filter, List.filter_map]
    rfl
  refine ⟨fun t ht => h.minted t (List.mem_of_mem_filter ht), h.drawn, h.distinct, ?_, h.issued,
    fun t ht => h.known t (List.mem_of_mem_filter ht)⟩
  dsimp only
  rw [hrest, ← List.append_assoc]
  refine (List.perm_append_singleton id _).trans ?_
  exact ((List.perm_cons_erase hmem).symm.append_right s.revoked).trans h.balance

/-- What is done for a caller who may have it done keeps the ledger. -/
theorem does (h : s.Keeps fresh ids) {s' : StubStore} {work : StubWork} {reply : StubReply}
    (hdoes : Stub.Does o fresh s work s' reply) {now : Moment} {who : StubCaller}
    {request : Request} (hpermits : Stub.Permits o now who request work)
    (hdistinct : DistinctDraws fresh s'.drawn) :
    s'.Keeps fresh (ids ++ reply.grantedId?.toList) := by
  have hgrantless : ∀ {s' : StubStore} {reply : StubReply}, reply.status ≠ 201 →
      s'.Keeps fresh ids → s'.Keeps fresh (ids ++ reply.grantedId?.toList) := by
    intro s' reply hstatus hkeeps
    rw [StubReply.grantedId?, StubReply.grant?_of_status hstatus]
    exact (List.append_nil ids).symm ▸ hkeeps
  have hok : (200 : Nat) ≠ 201 := by decide
  cases hdoes with
  | reports hstatus => exact hgrantless (hstatus ▸ hok) h
  | issues =>
    cases hpermits with
    | issueToken hadmin hknown hexpiry =>
      rw [StubReply.grantedId?, Stub.grant?_issue]
      exact h.issue hdistinct hknown _
  | revokes hlive => exact hgrantless (by decide) (h.revoke hlive)
  | missing hnone => exact hgrantless (by decide) h
  | creates hdrawn => exact hgrantless hok (h.of_same rfl rfl rfl hdrawn)
  | listsContainers => exact hgrantless hok h
  | listsTasks => exact hgrantless hok h

end StubStore.Keeps

/-! ## The ledger of a history -/

namespace StubServer

theorem drawn_le_later {before : List StubEvent} (h : before <+: events) :
    (after o fresh before).store.drawn ≤ (after o fresh events).store.drawn :=
  store_later (R := fun s s' => s.drawn ≤ s'.drawn) (fun _ => Nat.le_refl _) Nat.le_trans
    (fun _ _ => Nat.le_refl _) (fun s work => (Stub.performs o fresh s work).drawn_le) h

/-- The identifiers that answers grant, in order. -/
def grantedIds (answers : List (Nat × StubReply)) : List Uuid :=
  answers.filterMap fun a => a.2.grantedId?

theorem grantedIds_append (given more : List (Nat × StubReply)) :
    grantedIds (given ++ more) = grantedIds given ++ grantedIds more :=
  List.filterMap_append

theorem grantedIds_singleton (number : Nat) (reply : StubReply) :
    grantedIds [(number, reply)] = reply.grantedId?.toList := by
  cases hid : reply.grantedId? <;> simp [grantedIds, hid]

theorem grantedIds_of_not_success {reply : StubReply} (h : reply.isSuccess = false) :
    grantedIds [(number, reply)] = [] := by
  rw [grantedIds_singleton, StubReply.grantedId?, StubReply.grant?_of_not_success h]
  rfl

/-- In every history a stub agent keeps the ledger of what its answers granted. -/
theorem keeps_ledger (o : StubProfile) (fresh : Nat → Uuid) (events : List StubEvent)
    (hdistinct : DistinctDraws fresh (after o fresh events).store.drawn) :
    (after o fresh events).store.Keeps fresh (grantedIds (answers o fresh events)) := by
  induction events using List.reverseRecOn with
  | nil => exact StubStore.Keeps.empty fresh
  | append_singleton events e ih =>
    have ih := ih (hdistinct.of_le (drawn_le_later (List.prefix_append _ _)))
    have hcounted : ∀ request, ((after o fresh events).store.counting request).Keeps fresh
        (grantedIds (answers o fresh events)) := fun request =>
      ih.of_same rfl rfl rfl (Nat.le_refl _)
    obtain ⟨answer, hhappens, hanswers⟩ := happens_snoc o fresh events e
    rw [hanswers, grantedIds_append]
    generalize after o fresh (events ++ [e]) = server at hdistinct hhappens
    cases hhappens with
    | unreadable hread =>
      rw [Option.toList_some, grantedIds_of_not_success (Stub.read_error hread), List.append_nil]
      exact ih
    | starting hread =>
      rw [Option.toList_some, grantedIds_of_not_success rfl, List.append_nil]
      exact hcounted _
    | counted hread => exact (List.append_nil _).symm ▸ hcounted _
    | refused hstage hauthorise =>
      rw [Option.toList_some,
        grantedIds_of_not_success (Stub.authorise_refuses hauthorise).not_success,
        List.append_nil]
      exact ih
    | admitted hstage hauthorise => exact (List.append_nil _).symm ▸ ih
    | finished hstage =>
      obtain ⟨request, hadmitted⟩ := admitted_of_stageOf hstage
      obtain ⟨before, now, bearer, who, -, -, hpermits⟩ := hadmitted.permits
      rw [Option.toList_some, grantedIds_singleton]
      exact ih.does (Stub.performs o fresh _ _) hpermits hdistinct
    | abandoned => exact (List.append_nil _).symm ▸ ih
    | idle hother => exact (List.append_nil _).symm ▸ ih

end StubServer

end Shakedown
