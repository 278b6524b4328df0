/-
  Shakedown.Proofs.Token.Grant

  What a grant is taken for.  Every field of a grant has a fallback of its
  own: the name and the scopes that were asked for, and the expiry that was
  computed.  An order for a token then comes to one of six things, each told
  here by the expiry and by what the one call is answered.
-/
import Shakedown.Proofs.Text.Blank
import Shakedown.Proofs.Time.Timestamp
import Shakedown.Proofs.Token.Issue
import Shakedown.Proofs.Token.Scopes

namespace Shakedown.Token

open Time (Rfc3339.Tells Rfc3339.IsMinus Rfc3339.IsHyphen)

variable {σ τ : Type} {api : Api σ} {adminToken : String} {request : TokenParameters}
  {now e : Moment} {p q : Standing σ} {g h : TokenGrant} {token : ScopedToken}

/-! ## Grants -/

/-- The moment that a grant names as its expiry. -/
def Names (g : TokenGrant) (m : Moment) : Prop :=
  ∃ text, g.expiresAt = some text ∧ Rfc3339.Tells Rfc3339.IsMinus text.toList m

/-- The token that a grant stands for, asked for with an expiry.  What the grant leaves open
is as it was asked for. -/
structure Granted (request : TokenParameters) (e : Moment) (g : TokenGrant)
    (token : ScopedToken) : Prop where
  secret : token.secret = g.token
  id : token.id = g.id
  name_of_given : ∀ name, g.name = some name → token.name = name
  name_of_omitted : g.name = none → token.name = request.name
  scopes : ∀ s, token.holds s = true ↔ s ∈ if g.scopes = [] then request.scopes else g.scopes
  expiry_of_named : ∀ m, Names g m → token.expiresAt = m
  expiry_of_unnamed : (∀ m, ¬Names g m) → token.expiresAt = e

/-- Two grants that differ in the order and the repetitions of their scopes only. -/
def SameSets (g h : TokenGrant) : Prop :=
  h = { g with scopes := h.scopes } ∧ ∀ s, s ∈ g.scopes ↔ s ∈ h.scopes

theorem names_iff {m : Moment} :
    Names g m ↔ g.expiresAt.bind Time.Rfc3339.read? = some m := by
  rw [Option.bind_eq_some_iff]
  exact exists_congr fun text => and_congr_right fun _ => Time.Rfc3339.read?_eq_some_iff.symm

/-- The scopes of a token are told by the scopes that it holds. -/
theorem scopes_eq_of_holds {token token' : ScopedToken}
    (h : ∀ s, token.holds s = true ↔ token'.holds s = true) : token.scopes = token'.scopes := by
  refine Scopes.eq_of_mem_iff fun s => ?_
  simpa [ScopedToken.holds, Scopes.contains] using h s

/-- A grant stands for one token. -/
theorem Granted.unique {token token' : ScopedToken} (ht : Granted request e g token)
    (ht' : Granted request e g token') : token = token' := by
  have hname : token.name = token'.name := by
    cases hg : g.name with
    | none => rw [ht.name_of_omitted hg, ht'.name_of_omitted hg]
    | some name => rw [ht.name_of_given name hg, ht'.name_of_given name hg]
  have hscopes : token.scopes = token'.scopes :=
    scopes_eq_of_holds fun s => (ht.scopes s).trans (ht'.scopes s).symm
  have hexpiry : token.expiresAt = token'.expiresAt := by
    by_cases hnamed : ∃ m, Names g m
    · obtain ⟨m, hm⟩ := hnamed
      rw [ht.expiry_of_named m hm, ht'.expiry_of_named m hm]
    · have hunnamed : ∀ m, ¬Names g m := fun m hm => hnamed ⟨m, hm⟩
      rw [ht.expiry_of_unnamed hunnamed, ht'.expiry_of_unnamed hunnamed]
  obtain ⟨secret, id, name, scopes, expiresAt⟩ := token
  obtain ⟨secret', id', name', scopes', expiresAt'⟩ := token'
  exact (ScopedToken.mk.injEq ..).mpr ⟨ht.secret.trans ht'.secret.symm,
    ht.id.trans ht'.id.symm, hname, hscopes, hexpiry⟩

/-- The token made of a grant is the one it stands for. -/
theorem granted_of_ofGrant (hg : ofGrant request e g = .ok token) : Granted request e g token := by
  rw [ofGrant] at hg
  split at hg
  · exact nomatch hg
  obtain rfl := Except.ok.inj hg
  refine ⟨rfl, rfl, ?_, ?_, ?_, ?_, ?_⟩
  · intro name hname
    simp only [hname, Option.getD_some]
  · intro hname
    simp only [hname, Option.getD_none]
  · intro s
    rw [ScopedToken.holds, Scopes.contains_ofList, List.contains_iff_mem]
    simp only [List.isEmpty_iff]
  · intro m hm
    simp only [names_iff.mp hm, Option.getD_some]
  · intro hunnamed
    have hnone : g.expiresAt.bind Time.Rfc3339.read? = none :=
      Option.eq_none_iff_forall_ne_some.mpr fun m hm => hunnamed m (names_iff.mpr hm)
    simp only [hnone, Option.getD_none]

theorem blank_iff {s : String} : Text.blank s = false ↔ Text.trimmed s ≠ "" := by
  rw [Ne, Text.trimmed_eq_empty_iff, Bool.not_eq_true]

/-- A grant makes a token exactly if its secret is not blank, and then the token that it
stands for. -/
theorem ofGrant_eq_ok_iff :
    ofGrant request e g = .ok token ↔ Text.trimmed g.token ≠ "" ∧ Granted request e g token := by
  constructor
  · intro hg
    refine ⟨fun hempty => ?_, granted_of_ofGrant hg⟩
    rw [ofGrant_of_blank ((Text.trimmed_eq_empty_iff _).mp hempty)] at hg
    exact nomatch hg
  · rintro ⟨hne, hgranted⟩
    obtain ⟨token', htoken', -⟩ := exists_ofGrant request e (blank_iff.mpr hne)
    rw [htoken', hgranted.unique (granted_of_ofGrant htoken')]

/-- Neither the order of scopes in a grant nor their repetitions matter. -/
theorem SameSets.ofGrant_eq (hsame : SameSets g h) (request : TokenParameters) (e : Moment) :
    ofGrant request e h = ofGrant request e g := by
  obtain ⟨hfields, hscopes⟩ := hsame
  have hempty : h.scopes.isEmpty = g.scopes.isEmpty := by
    rw [Bool.eq_iff_iff, List.isEmpty_iff, List.isEmpty_iff, List.eq_nil_iff_forall_not_mem,
      List.eq_nil_iff_forall_not_mem]
    exact forall_congr' fun s => not_congr (hscopes s).symm
  have hset : Scopes.ofList h.scopes = Scopes.ofList g.scopes :=
    Scopes.ofList_eq_ofList_iff.mpr fun s => (hscopes s).symm
  rw [ofGrant, ofGrant, hfields]
  dsimp only
  rw [apply_ite Scopes.ofList, apply_ite Scopes.ofList, hempty, hset]

/-! ## Orders -/

/-- How an order for a token, made at `p` when it is `now`, goes: the calls made, and what it
comes to, and where, unless it is never answered. -/
inductive Issuance (api : Api σ) (adminToken : String) (request : TokenParameters) (now : Moment)
    (p : Standing σ) :
    List TimedCall → Option (Except IssueFault ScopedToken × Standing σ) → Prop where
  /-- An expiry that cannot be represented is not ordered. -/
  | invalidTtl (he : now.add? request.ttl = none) :
      Issuance api adminToken request now p []
        (some (.error (.invalidTtl request.ttl), p))
  | ignored {e : Moment} (he : now.add? request.ttl = some e)
      (h : api.Ignores p (orderCall adminToken request e)) :
      Issuance api adminToken request now p [⟨p.now, orderCall adminToken request e⟩] none
  | rejected {e : Moment} {code : Nat} {body : String} {q : Standing σ}
      (he : now.add? request.ttl = some e)
      (h : api.Answers p (orderCall adminToken request e) (.error (.status code body)) q) :
      Issuance api adminToken request now p [⟨p.now, orderCall adminToken request e⟩]
        (some (.error (.rejected code body), q))
  | transport {e : Moment} {f : ApiFault} {q : Standing σ} (he : now.add? request.ttl = some e)
      (h : api.Answers p (orderCall adminToken request e) (.error f) q) (hf : f.status? = none) :
      Issuance api adminToken request now p [⟨p.now, orderCall adminToken request e⟩]
        (some (.error (.transport f.message), q))
  | missingToken {e : Moment} {g : TokenGrant} {q : Standing σ}
      (he : now.add? request.ttl = some e)
      (h : api.Answers p (orderCall adminToken request e) (.ok g) q)
      (hempty : Text.trimmed g.token = "") :
      Issuance api adminToken request now p [⟨p.now, orderCall adminToken request e⟩]
        (some (.error .missingToken, q))
  | issued {e : Moment} {g : TokenGrant} {token : ScopedToken} {q : Standing σ}
      (he : now.add? request.ttl = some e)
      (h : api.Answers p (orderCall adminToken request e) (.ok g) q)
      (hne : Text.trimmed g.token ≠ "") (htoken : Granted request e g token) :
      Issuance api adminToken request now p [⟨p.now, orderCall adminToken request e⟩]
        (some (.ok token, q))

/-- An order whose grant makes a token comes to it. -/
theorem runs_of_granted (he : now.add? request.ttl = some e)
    (hg : api.Answers p (orderCall adminToken request e) (.ok g) q)
    (htoken : ofGrant request e g = .ok token) :
    (issue adminToken request now).Runs api p [⟨p.now, orderCall adminToken request e⟩]
      (some (.ok token, q)) := by
  rw [← htoken]
  exact runs_issue_of_answers he hg

theorem Issuance.runs {calls : List TimedCall}
    {outcome : Option (Except IssueFault ScopedToken × Standing σ)}
    (h : Issuance api adminToken request now p calls outcome) :
    (issue adminToken request now).Runs api p calls outcome := by
  cases h with
  | invalidTtl he => exact runs_issue_of_no_expiry he api adminToken p
  | ignored he h => exact runs_issue_of_ignores he h
  | rejected he h => exact runs_issue_of_answers he h
  | @transport e f q he h hf =>
    have hfault : IssueFault.ofApi f = .transport f.message := by
      cases f with
      | status code body => exact nomatch hf
      | transport m => rfl
      | timeout d => rfl
      | malformed m => rfl
    rw [← hfault]
    exact runs_issue_of_answers he h
  | missingToken he h hempty =>
    rw [← ofGrant_of_blank ((Text.trimmed_eq_empty_iff _).mp hempty)]
    exact runs_issue_of_answers he h
  | issued he h hne htoken => exact runs_of_granted he h (ofGrant_eq_ok_iff.mpr ⟨hne, htoken⟩)

/-- An order goes in one of these ways. -/
theorem exists_issuance (api : Api σ) (adminToken : String) (request : TokenParameters)
    (now : Moment) (p : Standing σ) :
    ∃ calls outcome, Issuance api adminToken request now p calls outcome := by
  cases he : now.add? request.ttl with
  | none => exact ⟨_, _, .invalidTtl he⟩
  | some e =>
    rcases api.answers_or_ignores p (orderCall adminToken request e) with ⟨r, q, h⟩ | hnone
    · cases r with
      | error f =>
        cases f with
        | status code body => exact ⟨_, _, .rejected he h⟩
        | transport m => exact ⟨_, _, .transport he h rfl⟩
        | timeout d => exact ⟨_, _, .transport he h rfl⟩
        | malformed m => exact ⟨_, _, .transport he h rfl⟩
      | ok g =>
        by_cases hempty : Text.trimmed (TokenGrant.token g) = ""
        · exact ⟨_, _, .missingToken he h hempty⟩
        · obtain ⟨token, htoken, -⟩ := exists_ofGrant request e (blank_iff.mpr hempty)
          exact ⟨_, _, .issued he h hempty (granted_of_ofGrant htoken)⟩
    · exact ⟨_, _, .ignored he hnone⟩

/-- An order goes exactly as its answer says: without an expiry no call is made; with one it
is a single call, which carries the name, the scopes as they were given and the expiry.  A
token is issued exactly if the call succeeds with a secret that is not blank, and it is the one
that the grant stands for; two grants with the same sets of scopes make the same token.
Outside of leap seconds the expiry is the sum, if that can be represented. -/
theorem issuance_course (api : Api σ) (api' : Api τ) (p : Standing σ) (p' : Standing τ)
    (adminToken : String) (request : TokenParameters) (now : Moment) :
    (∀ calls outcome, (issue adminToken request now).Runs api p calls outcome ↔
      Issuance api adminToken request now p calls outcome) ∧
    (now.Representable → ∀ e, now.add? request.ttl = some e ↔
      e.Representable ∧ e.total = now.total + request.ttl.nanoseconds) ∧
    ∀ e, now.add? request.ttl = some e →
      let call : Call := ⟨adminToken, .issueToken ⟨request.name, request.scopes, e.timestamp⟩⟩
      orderCall adminToken request e = call ∧
      ∀ g h q q', SameSets g h → api.Answers p call (.ok g) q → api'.Answers p' call (.ok h) q' →
        ∃ result, (issue adminToken request now).Runs api p [⟨p.now, call⟩] (some (result, q)) ∧
          (issue adminToken request now).Runs api' p' [⟨p'.now, call⟩] (some (result, q')) := by
  refine ⟨fun calls outcome => ⟨fun hruns => ?_, Issuance.runs⟩, fun hnow e => ?_, ?_⟩
  · obtain ⟨_, _, hissuance⟩ := exists_issuance api adminToken request now p
    obtain ⟨rfl, rfl⟩ := hruns.unique hissuance.runs
    exact hissuance
  · exact hnow.add?_eq_some_iff
  · intro e he call
    refine ⟨rfl, fun g h q q' hsame hg hh => ⟨ofGrant request e g, runs_issue_of_answers he hg, ?_⟩⟩
    rw [← hsame.ofGrant_eq]
    exact runs_issue_of_answers he hh

/-- An agent that grants every token at once in the same words. -/
def alwaysGranting (g : TokenGrant) : Api Unit where
  answer _ _ c := (⟨some 0, reply c.request⟩, ())
where
  /-- What a request is answered. -/
  reply : (r : Request) → Except ApiFault r.Reply
  | .issueToken _ => .ok g
  | .health | .systemInfo | .revokeToken _ | .createContainer _ | .listContainers | .listTasks _ =>
    .error (.status 404 "")

/-- An expiry whose offset has U+2212 for a minus sign is no timestamp of RFC 3339, and still
it is taken: the token does not fall back to the expiry that was ordered. -/
theorem foreign_minus_sign_taken :
    let text := "2026-10-19T12:30:00\u221202:00"
    let now : Moment := ⟨1792411200, 0⟩
    let api := alwaysGranting { token := "t", expiresAt := some text }
    (∀ m, ¬Rfc3339.Tells Rfc3339.IsHyphen text.toList m) ∧
    now.add? ({} : TokenParameters).ttl = some ⟨1792414800, 0⟩ ∧
    ∃ calls token q, (issue "smoke-admin" {} now).Runs api ⟨0, ()⟩ calls (some (.ok token, q)) ∧
      token.expiresAt = ⟨1792420200, 0⟩ ∧ token.expiresAt ≠ ⟨1792414800, 0⟩ := by
  intro text now api
  have hsum : (⟨1792411200, 0⟩ : Moment).add? ({} : TokenParameters).ttl =
      some ⟨1792414800, 0⟩ := by decide +kernel
  refine ⟨fun m htells => ?_, hsum, ?_⟩
  · have hsign : '\u2212' ∈ text.toList := by decide +kernel
    rcases htells.toNat_lt '\u2212' hsign with hascii | hhyphen
    · exact absurd hascii (by decide)
    · exact absurd hhyphen (by unfold Time.Rfc3339.IsHyphen; decide)
  · have hread : Time.Rfc3339.read? text = some ⟨1792420200, 0⟩ := by decide +kernel
    have hblank : Text.blank "t" = false := by decide +kernel
    have hanswers : api.Answers ⟨0, ()⟩ (orderCall "smoke-admin" {} ⟨1792414800, 0⟩)
        (.ok { token := "t", expiresAt := some text }) ⟨0, ()⟩ := ⟨0, rfl, rfl, rfl⟩
    obtain ⟨token, htoken, -⟩ := exists_ofGrant {} ⟨1792414800, 0⟩
      (show Text.blank ({ token := "t", expiresAt := some text } : TokenGrant).token = false
        from hblank)
    have hexpiry : token.expiresAt = ⟨1792420200, 0⟩ :=
      (granted_of_ofGrant htoken).expiry_of_named _
        ⟨text, rfl, Time.Rfc3339.read?_eq_some_iff.mp hread⟩
    refine ⟨_, token, _, runs_of_granted hsum hanswers htoken, hexpiry, ?_⟩
    rw [hexpiry]
    decide

end Shakedown.Token
