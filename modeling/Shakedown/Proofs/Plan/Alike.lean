/-
  Shakedown.Proofs.Plan.Alike

  Two runs with other credentials.  `P` tells which credentials stand for each
  other.  Two APIs are alike if they cannot tell such credentials apart: a
  request is answered after the same time and with the same reply, but for
  the text of a token that is granted.  Two plans are alike if they make the
  same requests, and go on alike after replies that are the same.  Against
  APIs that are alike, such plans leave traces that differ in credentials
  only.
-/
import Mathlib.Data.List.Forall2
import Shakedown.Proofs.Plan.Trace
import Shakedown.Run.Interruption
import Shakedown.Text.Blank

namespace Shakedown

variable {σ τ α β γ δ : Type} {P : String → String → Prop} {R : σ → τ → Prop}
  {Q : Request → String → String → Prop}

/-! ## Replies -/

/-- Two grants that differ at most in the text of the token: either both are blank, or
neither is and they stand for each other. -/
structure TokenGrant.Alike (P : String → String → Prop) (g h : TokenGrant) : Prop where
  same : h = { g with token := h.token }
  blank : Text.blank h.token = Text.blank g.token
  paired : Text.blank g.token = false → P g.token h.token

/-- Two answers to an order: the same fault, or grants that are alike. -/
inductive GrantsAlike (P : String → String → Prop) :
    Except ApiFault TokenGrant → Except ApiFault TokenGrant → Prop where
  | fault (f : ApiFault) : GrantsAlike P (.error f) (.error f)
  | grant {g h : TokenGrant} (halike : g.Alike P h) : GrantsAlike P (.ok g) (.ok h)

/-- Two answers to a request are the same, except that tokens may be granted with other
texts. -/
def Request.SameReply (P : String → String → Prop) :
    (r : Request) → Except ApiFault r.Reply → Except ApiFault r.Reply → Prop
  | .issueToken _ => GrantsAlike P
  | .health => Eq
  | .systemInfo => Eq
  | .revokeToken _ => Eq
  | .createContainer _ => Eq
  | .listContainers => Eq
  | .listTasks _ => Eq

/-- Two APIs that answer alike, whichever of two credentials that stand for each other a
request is made with, and whatever came before. -/
structure Api.Alike (P : String → String → Prop) (R : σ → τ → Prop) (api : Api σ)
    (other : Api τ) : Prop where
  delay {s : σ} {t : τ} {c d : String} (h : R s t) (hP : P c d) (now : Nat) (r : Request) :
    (api.answer s now ⟨c, r⟩).1.delay = (other.answer t now ⟨d, r⟩).1.delay
  reply {s : σ} {t : τ} {c d : String} (h : R s t) (hP : P c d) (now : Nat) (r : Request) :
    r.SameReply P (api.answer s now ⟨c, r⟩).1.result (other.answer t now ⟨d, r⟩).1.result
  state {s : σ} {t : τ} {c d : String} (h : R s t) (hP : P c d) (now : Nat) (r : Request) :
    R (api.answer s now ⟨c, r⟩).2 (other.answer t now ⟨d, r⟩).2

/-! ## Events -/

/-- Two events at one time: calls that make one request, with credentials as `Q` has them
for it, or waits of one length. -/
inductive Event.Alike (Q : Request → String → String → Prop) : Event → Event → Prop where
  | call (time : Nat) {r : Request} {c d : String} (h : Q r c d) :
      Event.Alike Q (.call time ⟨c, r⟩) (.call time ⟨d, r⟩)
  | wait (time : Nat) (length : Option Nat) :
      Event.Alike Q (.wait time length) (.wait time length)

/-- Events that are alike, one by one. -/
abbrev EventsAlike (Q : Request → String → String → Prop) : List Event → List Event → Prop :=
  List.Forall₂ (Event.Alike Q)

theorem EventsAlike.append {es fs es' fs' : List Event} (h : EventsAlike Q es fs)
    (h' : EventsAlike Q es' fs') : EventsAlike Q (es ++ es') (fs ++ fs') :=
  List.rel_append h h'

theorem EventsAlike.wait (time length : Nat) :
    EventsAlike Q (Plan.waitEvents time length) (Plan.waitEvents time length) := by
  unfold Plan.waitEvents
  split
  · exact .nil
  · exact .cons (.wait time _) .nil

/-- A call and the wait for its answer. -/
theorem EventsAlike.ask {r : Request} {c d : String} (h : Q r c d) (time length : Nat) :
    EventsAlike Q (.call time ⟨c, r⟩ :: Plan.waitEvents time length)
      (.call time ⟨d, r⟩ :: Plan.waitEvents time length) :=
  .cons (.call time h) (EventsAlike.wait time length)

/-- APIs that are alike are still alike after calls that are. -/
theorem Api.Alike.after {api : Api σ} {other : Api τ} (h : api.Alike P R other)
    (hQ : ∀ {r c d}, Q r c d → P c d) {es fs : List Event} (hevents : EventsAlike Q es fs)
    {s : σ} {t : τ} (hst : R s t) :
    R (api.after s (callsOf es)) (other.after t (callsOf fs)) := by
  induction hevents generalizing s t with
  | nil => exact hst
  | cons he _ ih =>
    cases he with
    | call time hq => exact ih (h.state hst (hQ hq) time _)
    | wait time length => exact ih hst

/-! ## Traces -/

/-- Two traces with events that are alike, which end at one time with values as `S` has
them, or both never end. -/
structure Trace.Alike (Q : Request → String → String → Prop) (S : α → β → Prop) (x : Trace α)
    (y : Trace β) : Prop where
  events : EventsAlike Q x.events y.events
  ending : Option.Rel (fun e f => e.1 = f.1 ∧ S e.2 f.2) x.ending y.ending

namespace Trace

variable {S : α → β → Prop} {x : Trace α} {y : Trace β}

theorem Alike.ended {a : α} {b : β} (now : Nat) (h : S a b) :
    (Trace.mk [] (some (now, a))).Alike Q S (Trace.mk [] (some (now, b))) :=
  ⟨.nil, .some ⟨rfl, h⟩⟩

theorem Alike.prepend {es fs : List Event} (hevents : EventsAlike Q es fs)
    (h : x.Alike Q S y) : (x.prepend es).Alike Q S (y.prepend fs) :=
  ⟨hevents.append h.events, h.ending⟩

/-- Other values at the end. -/
theorem Alike.map {S' : γ → δ → Prop} {f : α → γ} {g : β → δ} (h : x.Alike Q S y)
    (hS : ∀ a b, S a b → S' (f a) (g b)) : (x.map f).Alike Q S' (y.map g) := by
  obtain ⟨events, ending⟩ := x
  obtain ⟨events', ending'⟩ := y
  obtain ⟨hevents, hending⟩ := h
  cases hending with
  | none => exact ⟨hevents, .none⟩
  | some he => exact ⟨hevents, .some ⟨he.1, hS _ _ he.2⟩⟩

/-- Nothing follows traces that go on for ever. -/
theorem Alike.andThen_of_none {S' : γ → δ → Prop} {next : Nat → α → Trace γ}
    {next' : Nat → β → Trace δ} (h : x.Alike Q S y) (hx : x.ending = none)
    (hy : y.ending = none) : (x.andThen next).Alike Q S' (y.andThen next') := by
  rw [Trace.andThen_of_none hx, Trace.andThen_of_none hy]
  exact ⟨h.events, .none⟩

/-- What follows traces that end is alike if it is alike from their end on. -/
theorem Alike.andThen_of_some {S' : γ → δ → Prop} {next : Nat → α → Trace γ}
    {next' : Nat → β → Trace δ} {now : Nat} {a : α} {b : β} (h : x.Alike Q S y)
    (hx : x.ending = some (now, a)) (hy : y.ending = some (now, b))
    (hnext : (next now a).Alike Q S' (next' now b)) :
    (x.andThen next).Alike Q S' (y.andThen next') := by
  rw [Trace.andThen_of_some hx, Trace.andThen_of_some hy]
  exact .prepend h.events hnext

end Trace

/-! ## Interruptions -/

namespace Interruption

/-- Two traces cut at one time, with events that are alike until then; or neither is cut. -/
abbrev CutsAlike (Q : Request → String → String → Prop) :
    Option (List Event × Nat) → Option (List Event × Nat) → Prop :=
  Option.Rel fun x y => EventsAlike Q x.1 y.1 ∧ x.2 = y.2

/-- Two cuts with an event in front of each. -/
theorem CutsAlike.cons {e f : Event} (he : e.Alike Q f) {x y : Option (List Event × Nat)}
    (h : CutsAlike Q x y) :
    CutsAlike Q (x.map fun c => (e :: c.1, c.2)) (y.map fun c => (f :: c.1, c.2)) := by
  cases h with
  | none => exact .none
  | some h => exact .some ⟨.cons he h.1, h.2⟩

end Interruption

/-! ## Plans -/

namespace Plan

/-- Two plans that make the same requests, with credentials as `Q` has them, and go on alike
after the same replies, until they are done with values as `S` has them. -/
inductive Alike (Q : Request → String → String → Prop) (P : String → String → Prop)
    (S : α → β → Prop) : Plan α → Plan β → Prop where
  | done {a : α} {b : β} (h : S a b) : Alike Q P S (.done a) (.done b)
  | ask {r : Request} {c d : String} {next : Except ApiFault r.Reply → Plan α}
      {next' : Except ApiFault r.Reply → Plan β} (hcall : Q r c d)
      (hnext : ∀ x y, r.SameReply P x y → Alike Q P S (next x) (next' y)) :
      Alike Q P S (.ask ⟨c, r⟩ next) (.ask ⟨d, r⟩ next')
  | askWithin (limit : Nat) {r : Request} {c d : String}
      {next : Option (Except ApiFault r.Reply) → Plan α}
      {next' : Option (Except ApiFault r.Reply) → Plan β} (hcall : Q r c d)
      (hnext : ∀ x y, Option.Rel (r.SameReply P) x y → Alike Q P S (next x) (next' y)) :
      Alike Q P S (.askWithin limit ⟨c, r⟩ next) (.askWithin limit ⟨d, r⟩ next')
  | pause (length : Nat) {next : Plan α} {next' : Plan β} (hnext : Alike Q P S next next') :
      Alike Q P S (.pause length next) (.pause length next')

variable {S : α → β → Prop}

theorem Alike.bind {S' : γ → δ → Prop} {p : Plan α} {q : Plan β} {f : α → Plan γ}
    {g : β → Plan δ} (h : p.Alike Q P S q) (hf : ∀ a b, S a b → (f a).Alike Q P S' (g b)) :
    (p.bind f).Alike Q P S' (q.bind g) := by
  induction h with
  | done h => exact hf _ _ h
  | ask hcall _ ih => exact .ask hcall ih
  | askWithin limit hcall _ ih => exact .askWithin limit hcall ih
  | pause length _ ih => exact .pause length ih

/-- Answers that are alike come to the same within a limit. -/
theorem alike_within {r : Request} {c d : String} {x : Answer ⟨c, r⟩} {y : Answer ⟨d, r⟩}
    (hdelay : x.delay = y.delay) (hreply : r.SameReply P x.result y.result) (limit : Nat) :
    (x.within limit).1 = (y.within limit).1 ∧
      Option.Rel (r.SameReply P) (x.within limit).2 (y.within limit).2 := by
  unfold Answer.within
  rw [hdelay]
  cases y.delay with
  | none => exact ⟨rfl, .none⟩
  | some delay =>
    dsimp only
    split
    · exact ⟨rfl, .some hreply⟩
    · exact ⟨rfl, .none⟩

/-- Plans that are alike leave traces that are, against APIs that are. -/
theorem Alike.trace {api : Api σ} {other : Api τ} (hapi : api.Alike P R other)
    (hQ : ∀ {r c d}, Q r c d → P c d) {p : Plan α} {q : Plan β} (h : p.Alike Q P S q)
    (now : Nat) {s : σ} {t : τ} (hst : R s t) :
    (p.trace api now s).Alike Q S (q.trace other now t) := by
  induction h generalizing now s t with
  | done h =>
    rw [trace_done, trace_done]
    exact .ended now h
  | @ask r c d next next' hcall _ ih =>
    have hdelay := hapi.delay hst (hQ hcall) now r
    cases hd : (other.answer t now ⟨d, r⟩).1.delay with
    | none =>
      rw [trace_ask_of_none (hdelay.trans hd), trace_ask_of_none hd]
      exact ⟨.cons (.call now hcall) (.cons (.wait now none) .nil), .none⟩
    | some delay =>
      rw [trace_ask_of_some (hdelay.trans hd), trace_ask_of_some hd]
      exact .prepend (.ask hcall now delay) (ih _ _ (hapi.reply hst (hQ hcall) now r) _
        (hapi.state hst (hQ hcall) now r))
  | @askWithin limit r c d next next' hcall _ ih =>
    obtain ⟨htaken, hresult⟩ := alike_within (hapi.delay hst (hQ hcall) now r)
      (hapi.reply hst (hQ hcall) now r) limit
    rw [trace_askWithin, trace_askWithin, htaken]
    exact .prepend (.ask hcall now _) (ih _ _ hresult _ (hapi.state hst (hQ hcall) now r))
  | pause length _ ih =>
    rw [trace_pause, trace_pause]
    exact .prepend (.cons (.wait now _) .nil) (ih _ hst)

end Plan

end Shakedown
