import Mathlib.Data.List.Forall2
import Fulfilment.Webhook.Dispatch

/-!
Fanning an event out to webhook subscriptions. A request's headers are read as the transport
reads them, the last one of a name winning, so the signature, which comes last, is never
replaced.
-/

namespace Fulfilment.Webhook

open Text Json

/-- The fields a registered subscription keeps from the request it was registered from, under
identity `id`: the tenant, the trimmed URL and event names, the headers, and the secret unless it
is empty. The request was valid. -/
structure Registration (s : Subscription) (n : NewSubscription) (id : SubscriptionId) : Prop where
  id : s.id = id
  valid : n.validate = .ok ()
  tenant : s.tenant = n.tenant
  url : s.callbackUrl = trimBlank n.callbackUrl
  events : s.events = n.events.map trimBlank
  headers : s.headers = n.headers
  secret : s.secret = n.secret.filter (· ≠ "")

theorem Registration.deactivate {s : Subscription} {n : NewSubscription} {id : SubscriptionId}
    (h : Registration s n id) (now : Instant) :
    Registration { s with isActive := false, updatedAt := now } n id :=
  ⟨h.id, h.valid, h.tenant, h.url, h.events, h.headers, h.secret⟩

namespace Registry

/-- The registries that register and deactivate calls lead to from an empty one, with the
registrations that succeeded on the way (request and identity), oldest first. A refused call
changes nothing, so only the calls that succeed are steps. -/
inductive Reached : Registry → List (NewSubscription × SubscriptionId) → Prop
  | empty : Reached {} []
  | register {r r' : Registry} {regs : List (NewSubscription × SubscriptionId)} {n : NewSubscription}
      {id : SubscriptionId} {now : Instant} {s : Subscription} :
      Reached r regs → r.register n id now = .ok (r', s) → Reached r' (regs ++ [(n, id)])
  | deactivate {r r' : Registry} {regs : List (NewSubscription × SubscriptionId)} {id : SubscriptionId}
      {now : Instant} :
      Reached r regs → r.deactivate id now = .ok r' → Reached r' regs

theorem register_eq_ok {r r' : Registry} {n : NewSubscription} {id : SubscriptionId} {now : Instant}
    {s : Subscription} (h : r.register n id now = .ok (r', s)) :
    r'.subscriptions = r.subscriptions ++ [s] ∧ Registration s n id := by
  unfold register at h
  split at h
  · rename_i s' reg
    cases h
    unfold NewSubscription.register at reg
    cases hv : n.validate with
    | error e => rw [hv] at reg; cases reg
    | ok u =>
      rw [hv] at reg
      cases reg
      exact ⟨rfl, ⟨rfl, hv, rfl, rfl, rfl, rfl, rfl⟩⟩
  · cases h

theorem eq_ok_of_toBool {ε : Type} {e : Except ε Unit} (h : e.toBool = true) : e = .ok () := by
  cases e with
  | error _ => cases h
  | ok u => rfl

theorem register_of_valid (r : Registry) {n : NewSubscription} (id : SubscriptionId) (now : Instant)
    (h : n.validate = .ok ()) : ∃ s, r.register n id now = .ok (⟨r.subscriptions ++ [s]⟩, s) := by
  unfold register NewSubscription.register
  rw [h]
  exact ⟨_, rfl⟩

theorem deactivate_eq_ok {r r' : Registry} {id : SubscriptionId} {now : Instant}
    (h : r.deactivate id now = .ok r') :
    r'.subscriptions = r.subscriptions.map fun s =>
      if s.id == id then { s with isActive := false, updatedAt := now } else s := by
  unfold deactivate at h
  split at h
  · cases h
    rfl
  · cases h


theorem Reached.registered {r : Registry} {regs : List (NewSubscription × SubscriptionId)}
    (h : Reached r regs) :
    List.Forall₂ (fun s reg => Registration s reg.1 reg.2) r.subscriptions regs := by
  induction h with
  | empty => exact .nil
  | register _ ok ih =>
    obtain ⟨appended, reg⟩ := register_eq_ok ok
    rw [appended]
    exact List.rel_append ih (.cons reg .nil)
  | @deactivate r r' regs id now _ ok ih =>
    rw [deactivate_eq_ok ok, List.forall₂_map_left_iff]
    refine ih.imp fun s reg h => ?_
    split
    · exact h.deactivate now
    · exact h

end Registry


/-! ### The request for a subscription -/

theorem sameHeaderName_self (a : String) : sameHeaderName a a = true := by
  simp [sameHeaderName]

theorem headerValue?_append (xs ys : List (String × String)) (name : String) :
    headerValue? (xs ++ ys) name = (headerValue? ys name).or (headerValue? xs name) := by
  unfold headerValue?
  rw [List.reverse_append, List.find?_append]
  cases ys.reverse.find? fun h => sameHeaderName h.1 name <;> rfl

theorem headerValue?_signature (value name : String)
    (h : sameHeaderName signatureHeader name = false) :
    headerValue? [(signatureHeader, value)] name = none := by
  simp [headerValue?, h]

theorem header?_contentType (s : Subscription) (body : List UInt8) :
    (requestFor s body).header? "Content-Type" =
      some ((headerValue? s.headers.entries "Content-Type").getD "application/json") := by
  have other : sameHeaderName signatureHeader "Content-Type" = false := by decide +kernel
  have json : headerValue? [("Content-Type", "application/json")] "Content-Type" =
      some "application/json" := by
    simp [headerValue?, sameHeaderName_self]
  unfold Request.header? requestFor
  simp only
  rw [headerValue?_append, headerValue?_append, json]
  split
  · rw [headerValue?_signature _ _ other]
    cases headerValue? s.headers.entries "Content-Type" <;> rfl
  · cases headerValue? s.headers.entries "Content-Type" <;> rfl

theorem header?_signature {s : Subscription} {secret : String} (h : s.secret = some secret)
    (body : List UInt8) :
    (requestFor s body).header? signatureHeader = some (sign secret ⟨body.toArray⟩) := by
  unfold Request.header? requestFor
  simp only [h]
  rw [headerValue?_append]
  simp [headerValue?, sameHeaderName_self]


/-! ### Dispatching -/

theorem mapM_run_map {σ α β γ : Type} {g : α → StateM σ β} {f : β → γ} {h : α → γ}
    (hg : ∀ a st, f ((g a).run st).1 = h a) :
    ∀ (l : List α) (st : σ), ((l.mapM g).run st).1.map f = l.map h := by
  intro l
  induction l with
  | nil => intro st; rfl
  | cons a l ih =>
    intro st
    rw [List.mapM_cons]
    simp only [StateT.run_bind, StateT.run_pure]
    exact congrArg₂ List.cons (hg a st) (ih _)


theorem dispatch_outcomes {σ : Type} (send : Request → StateM σ (Except TransportError Nat))
    (registry : Registry) (policy : RetryPolicy) (capacity : Nat) (tenant : TenantId)
    (event : String) (data : Value) (st : σ) :
    ((dispatch send registry policy capacity tenant event data).run st).1.map
        (fun o => (o.subscription, o.url)) =
      (jobsFor registry policy tenant event data).map fun job =>
        (job.subscription, job.request.url) := by
  unfold dispatch
  rw [mapM_run_map (h := fun p => (p.1.subscription, p.1.request.url)) ?_]
  · rw [show (fun p : DeliveryJob × Nat => (p.1.subscription, p.1.request.url)) =
        (fun job : DeliveryJob => (job.subscription, job.request.url)) ∘ Prod.fst from rfl,
      ← List.map_map, List.zipIdx_map_fst]
  intro p st
  split
  rename_i job k
  -- a dropped job and a delivered one both answer with the job's subscription and URL
  split
  · rfl
  · simp only [StateT.run_bind]
    generalize (deliver send job.retry job.request).run st = delivered
    obtain ⟨⟨attempts, result⟩, st'⟩ := delivered
    rfl


/-- What notifying an event of a tenant with its data does over a registry whose successful
registrations were `regs`. -/
structure FansOut (r : Registry) (regs : List (NewSubscription × SubscriptionId))
    (policy : RetryPolicy) (tenant : TenantId) (event : String) (data : Value) : Prop where
  /-- The registry holds one subscription per registration, in the order of registration, with
  its request's tenant, trimmed URL and event names, headers and non-empty secret. -/
  registered : List.Forall₂ (fun s reg => Registration s reg.1 reg.2) r.subscriptions regs
  /-- One job per subscription that is active, of the tenant and lists the event, in order. -/
  jobs : (jobsFor r policy tenant event data).map (·.subscription) =
    (r.subscriptions.filter fun s => s.isActive && s.tenant == tenant && s.events.contains event).map
      (·.id)
  /-- The dispatcher answers one outcome per job, whatever the transport answers. -/
  outcomes : ∀ {σ : Type} (send : Request → StateM σ (Except TransportError Nat)) (capacity : Nat)
    (st : σ), ((dispatch send r policy capacity tenant event data).run st).1.length =
      (jobsFor r policy tenant event data).length
  /-- Each job's request goes to its subscription's URL with the event's payload, sends the
  last in name order of the subscription's content-type headers, or JSON, and, when the
  subscription has a secret, the signature of the payload, which no header of its own
  replaces. -/
  requests : ∀ job ∈ jobsFor r policy tenant event data, ∃ s ∈ r.subscriptions,
    job.subscription = s.id ∧ job.request.url = s.callbackUrl ∧
    job.request.body = (payloadBody tenant event data).toUTF8.toList ∧
    job.request.header? "Content-Type" =
      some ((headerValue? s.headers.entries "Content-Type").getD "application/json") ∧
    ∀ secret, s.secret = some secret →
      job.request.header? signatureHeader =
        some (sign secret ⟨(payloadBody tenant event data).toUTF8.toList.toArray⟩)

/-- Notifying over any registry reached by register and deactivate calls fans out as
`FansOut` says. -/
theorem notify_fans_out_signed_jobs {r : Registry} {regs : List (NewSubscription × SubscriptionId)}
    (hr : Registry.Reached r regs) (policy : RetryPolicy) (tenant : TenantId) (event : String)
    (data : Value) : FansOut r regs policy tenant event data := by
  refine ⟨hr.registered, ?_, fun send capacity st => ?_, fun job mem => ?_⟩
  · rw [jobsFor, List.map_map]
    rfl
  · have := congrArg List.length (dispatch_outcomes send r policy capacity tenant event data st)
    simpa only [List.length_map] using this
  · obtain ⟨s, wanted, rfl⟩ := List.mem_map.1 mem
    exact ⟨s, List.mem_of_mem_filter wanted, rfl, rfl, rfl, header?_contentType s _,
      fun _ secret => header?_signature secret _⟩

/-- Registering a signed request with its own content type, then notifying its event. -/
theorem notify_fans_out_after_a_registration :
    ∃ r, Registry.Reached r
        [({ tenant := ⟨"t1", Eq.refl "t1", Eq.refl false⟩
            callbackUrl := " https://hooks.test/a "
            events := [" order.created "]
            headers := HeaderMap.ofList [("content-type", "text/plain")]
            secret := some "key" }, default)] ∧
      FansOut r
        [({ tenant := ⟨"t1", Eq.refl "t1", Eq.refl false⟩
            callbackUrl := " https://hooks.test/a "
            events := [" order.created "]
            headers := HeaderMap.ofList [("content-type", "text/plain")]
            secret := some "key" }, default)]
        RetryPolicy.standard ⟨"t1", Eq.refl "t1", Eq.refl false⟩ "order.created" .null := by
  have valid : ({ tenant := ⟨"t1", Eq.refl "t1", Eq.refl false⟩
                  callbackUrl := " https://hooks.test/a "
                  events := [" order.created "]
                  headers := HeaderMap.ofList [("content-type", "text/plain")]
                  secret := some "key" } : NewSubscription).validate = .ok () :=
    Registry.eq_ok_of_toBool (by decide +kernel)
  obtain ⟨s, registered⟩ := Registry.register_of_valid ({} : Registry) default default valid
  have hr := Registry.Reached.register .empty registered
  exact ⟨_, hr, notify_fans_out_signed_jobs hr _ _ _ _⟩

end Fulfilment.Webhook
