import DxCommonGo.AmqpBroker

/-! `DeclareQueueWithDLQ` of package `rabbitmq`, and the topology that its calls leave behind. Every
dead-letter queue is bound with `#`, so queues that share an exchange share their dead letters. -/

namespace DxCommonGo.Topology
open GoStrings GoMaps DxErrors Programs AmqpBroker

def dlxOf (exchange : GoString) : GoString := exchange ++ str ".dlx"

def dlqOf (queue : GoString) : GoString := queue ++ str ".dlq"

def declareQueueWithDLQ (exchange exchangeKind queue bindingKey : GoString) (durable : Bool) :
    BrokerProg (Except GoError GoString) := do
  match ← ask (.exchangeDeclare exchange exchangeKind durable) with
  | some err =>
    return .error (errorf (str "rabbitmq.DeclareQueueWithDLQ: declare exchange %q: %w") err)
  | none =>
    let dlx := dlxOf exchange
    match ← ask (.exchangeDeclare dlx (str "topic") durable) with
    | some err =>
      return .error (errorf (str "rabbitmq.DeclareQueueWithDLQ: declare dlx %q: %w") err)
    | none =>
      let dlq := dlqOf queue
      match ← ask (.queueDeclare dlq durable none) with
      | .error err =>
        return .error (errorf (str "rabbitmq.DeclareQueueWithDLQ: declare dlq %q: %w") err)
      | .ok _ =>
        match ← ask (.queueBind dlq (str "#") dlx) with
        | some err =>
          return .error (errorf (str "rabbitmq.DeclareQueueWithDLQ: bind dlq %q: %w") err)
        | none =>
          match ← ask (.queueDeclare queue durable (some dlx)) with
          | .error err =>
            return .error (errorf (str "rabbitmq.DeclareQueueWithDLQ: declare queue %q: %w") err)
          | .ok q =>
            match ← ask (.queueBind queue bindingKey exchange) with
            | some err =>
              return .error (errorf (str "rabbitmq.DeclareQueueWithDLQ: bind queue %q: %w") err)
            | none => return .ok q

structure Call where
  exchange : GoString
  exchangeKind : GoString
  queue : GoString
  bindingKey : GoString
  durable : Bool

namespace Call

variable (c : Call)

def program : BrokerProg (Except GoError GoString) :=
  declareQueueWithDLQ c.exchange c.exchangeKind c.queue c.bindingKey c.durable

def bindDlq : Op := .queueBind (dlqOf c.queue) (str "#") (dlxOf c.exchange)

def dlqBinding : Binding := ⟨dlqOf c.queue, str "#", dlxOf c.exchange⟩

end Call

/-- What a call does to a broker: whether it got as far as binding its
dead-letter queue, and what it returned. -/
structure Declares (c : Call) (bound : Bool) (result : Except GoError GoString) (b b' : Broker) :
    Prop where
  grows : Extends b b'
  bindings : ∀ r, r ∈ b'.bindings ↔ r ∈ b.bindings ∨ bound = true ∧ r = c.dlqBinding ∨
    ∃ q, result = .ok q ∧ r = ⟨q, c.bindingKey, c.exchange⟩
  dlq : bound = true → b'.queues.lookup (dlqOf c.queue) = some ⟨c.durable, none⟩
  queue : ∀ q, result = .ok q → bound = true ∧
    b'.queues.lookup q = some ⟨c.durable, some (dlxOf c.exchange)⟩ ∧
    b'.exchanges.lookup (dlxOf c.exchange) = some ⟨.topic, c.durable⟩

theorem Declares.of_unbound {c : Call} {bound : Bool} (h : bound = false) {err : GoError}
    {b b' : Broker} (grows : Extends b b') (same : b'.bindings = b.bindings) :
    Declares c bound (.error err) b b' := by
  refine ⟨grows, fun r => ?_, ?_, ?_⟩ <;> simp [h, same]

theorem Declares.of_bound {c : Call} {bound : Bool} (h : bound = true) {err : GoError}
    {b b' : Broker} (grows : Extends b b') (bindings : b'.bindings = b.bindings ++ [c.dlqBinding])
    (dlq : b'.queues.lookup (dlqOf c.queue) = some ⟨c.durable, none⟩) :
    Declares c bound (.error err) b b' := by
  refine ⟨grows, fun r => ?_, fun _ => dlq, ?_⟩ <;> simp [h, bindings]

theorem Declares.of_done {c : Call} {bound : Bool} (h : bound = true) {q : GoString}
    {b b' : Broker} (grows : Extends b b')
    (bindings : b'.bindings = b.bindings ++ [c.dlqBinding] ++ [⟨q, c.bindingKey, c.exchange⟩])
    (dlq : b'.queues.lookup (dlqOf c.queue) = some ⟨c.durable, none⟩)
    (queue : b'.queues.lookup q = some ⟨c.durable, some (dlxOf c.exchange)⟩)
    (dlx : b'.exchanges.lookup (dlxOf c.exchange) = some ⟨.topic, c.durable⟩) :
    Declares c bound (.ok q) b b' := by
  refine ⟨grows, fun r => ?_, fun _ => dlq, ?_⟩
  · simp [h, bindings]
  · rintro q' ⟨⟩
    exact ⟨h, queue, dlx⟩

theorem extends_addBinding (b : Broker) (r : Binding) : Extends b (b.addBinding r) :=
  ⟨fun _ _ h => h, fun _ _ h => h⟩

theorem program_declares (c : Call) (b : Broker) :
    Meets handler (fun ops result b' => Declares c (decide (c.bindDlq ∈ ops)) result b b')
      c.program b := by
  unfold Call.program declareQueueWithDLQ
  rcases exchangeDeclare_spec b c.exchange c.exchangeKind c.durable with
    ⟨err, h1⟩ | ⟨b1, k, h1, nonempty, -, he, g1, s1⟩
  · apply meets_perform_bind h1
    exact meets_pure (.of_unbound (by simp [Call.bindDlq]) (.refl b) rfl)
  apply meets_perform_bind h1
  rcases exchangeDeclare_spec b1 (dlxOf c.exchange) (str "topic") c.durable with
    ⟨err, h2⟩ | ⟨b2, k', h2, dlxNonempty, hk, hdlx, g2, s2⟩
  · apply meets_perform_bind h2
    exact meets_pure (.of_unbound (by simp [Call.bindDlq]) g1 s1)
  cases hk
  apply meets_perform_bind h2
  rcases queueDeclare_spec b2 (dlqOf c.queue) c.durable none with
    ⟨err, h3⟩ | ⟨b3, name, h3, -, hname, hdlq, g3, e3, s3⟩
  · apply meets_perform_bind h3
    exact meets_pure (.of_unbound (by simp [Call.bindDlq]) (g1.trans g2) (s2.trans s1))
  apply meets_perform_bind h3
  have dlqNonempty : dlqOf c.queue ≠ [] := List.append_ne_nil_of_right_ne_nil _ (by decide)
  rw [hname dlqNonempty] at hdlq
  have h4 : b3.queueBind (dlqOf c.queue) (str "#") (dlxOf c.exchange) =
      (none, b3.addBinding c.dlqBinding) :=
    queueBind_spec (if_neg dlqNonempty) dlxNonempty hdlq (g3.exchanges _ _ hdlx)
  apply meets_perform_bind h4
  have g4 := ((g1.trans g2).trans g3).trans (extends_addBinding b3 c.dlqBinding)
  have s4 : (b3.addBinding c.dlqBinding).bindings = b.bindings ++ [c.dlqBinding] := by
    rw [Broker.addBinding, s3, s2, s1]
  rcases queueDeclare_spec (b3.addBinding c.dlqBinding) c.queue c.durable
    (some (dlxOf c.exchange)) with ⟨err, h5⟩ | ⟨b5, q, h5, current, hq, hqueue, g5, e5, s5⟩
  · apply meets_perform_bind h5
    exact meets_pure (.of_bound (by simp [Call.bindDlq]) g4 s4 hdlq)
  apply meets_perform_bind h5
  have named : (if c.queue = [] then b5.current else c.queue) = q := by
    split_ifs with empty
    · exact current
    · exact (hq empty).symm
  have exchange := g5.exchanges _ _ (g3.exchanges _ _ (g2.exchanges _ _ he))
  have h6 : b5.queueBind c.queue c.bindingKey c.exchange =
      (none, b5.addBinding ⟨q, c.bindingKey, c.exchange⟩) :=
    queueBind_spec named nonempty hqueue exchange
  apply meets_perform_bind h6
  refine meets_pure (.of_done (by simp [Call.bindDlq])
    (g4.trans (g5.trans (extends_addBinding b5 _))) ?_ (g5.queues _ _ hdlq) hqueue
    (g5.exchanges _ _ (g3.exchanges _ _ hdlx)))
  rw [Broker.addBinding, s5, s4]

structure Declaration where
  call : Call
  ops : List Op
  result : Except GoError GoString

def Declaration.bound (d : Declaration) : Bool := decide (d.call.bindDlq ∈ d.ops)

def declareAll : Broker → List Call → List Declaration × Broker
  | b, [] => ([], b)
  | b, c :: cs =>
    match run handler c.program b with
    | (.returned result, b') =>
      (⟨c, trace handler c.program b, result⟩ :: (declareAll b' cs).1, (declareAll b' cs).2)
    | (_, b') => ([], b')

structure Leaves (b : Broker) (ds : List Declaration) (b' : Broker) : Prop where
  grows : Extends b b'
  bindings : ∀ r, r ∈ b'.bindings ↔ r ∈ b.bindings ∨ ∃ d ∈ ds,
    d.bound = true ∧ r = d.call.dlqBinding ∨
      ∃ q, d.result = .ok q ∧ r = ⟨q, d.call.bindingKey, d.call.exchange⟩
  dlq : ∀ d ∈ ds, d.bound = true →
    b'.queues.lookup (dlqOf d.call.queue) = some ⟨d.call.durable, none⟩
  queue : ∀ d ∈ ds, ∀ q, d.result = .ok q → d.bound = true ∧
    b'.queues.lookup q = some ⟨d.call.durable, some (dlxOf d.call.exchange)⟩ ∧
    b'.exchanges.lookup (dlxOf d.call.exchange) = some ⟨.topic, d.call.durable⟩

theorem Leaves.cons {d : Declaration} {ds : List Declaration} {b b1 b' : Broker}
    (first : Declares d.call d.bound d.result b b1) (rest : Leaves b1 ds b') :
    Leaves b (d :: ds) b' := by
  refine ⟨first.grows.trans rest.grows, fun r => ?_, ?_, ?_⟩
  · rw [rest.bindings, first.bindings, List.exists_mem_cons_iff, or_assoc]
  · intro e he bound
    rcases List.mem_cons.mp he with rfl | he
    · exact rest.grows.queues _ _ (first.dlq bound)
    · exact rest.dlq e he bound
  · intro e he q hq
    rcases List.mem_cons.mp he with rfl | he
    · obtain ⟨bound, hqueue, hdlx⟩ := first.queue q hq
      exact ⟨bound, rest.grows.queues _ _ hqueue, rest.grows.exchanges _ _ hdlx⟩
    · exact rest.queue e he q hq

theorem declareAll_leaves (b : Broker) (cs : List Call) :
    Leaves b (declareAll b cs).1 (declareAll b cs).2 := by
  induction cs generalizing b with
  | nil => exact ⟨.refl b, by simp [declareAll], by simp [declareAll], by simp [declareAll]⟩
  | cons c cs ih =>
    obtain ⟨result, b1, hrun, declares⟩ := program_declares c b
    simp only [declareAll, hrun]
    exact .cons declares (ih b1)

theorem mem_route {b : Broker} {exchange key queue : GoString} {e : Exchange}
    (h : b.exchanges.lookup exchange = some e) : queue ∈ b.route exchange key ↔
      ∃ pattern, ⟨queue, pattern, exchange⟩ ∈ b.bindings ∧ e.routes pattern key = true := by
  simp only [Broker.route, h, List.mem_map, List.mem_filter, Bool.and_eq_true, decide_eq_true_eq]
  constructor
  · rintro ⟨r, ⟨hr, rfl, matches'⟩, rfl⟩
    exact ⟨r.key, hr, matches'⟩
  · rintro ⟨pattern, hr, matches'⟩
    exact ⟨_, ⟨hr, rfl, matches'⟩, rfl⟩

def freshBroker (exchanges : GoMap Exchange) : Broker :=
  ⟨exchanges, ∅, [], 0, [], fun _ _ => AList.notMem_empty _⟩

/-- Every message dead-lettered from a declared queue goes to the queue's own
dead-letter queue and to no other. -/
def Isolated (ds : List Declaration) (b : Broker) : Prop :=
  ∀ d ∈ ds, ∀ q, d.result = .ok q → ∀ key queue,
    queue ∈ b.deadLettered q key ↔ queue = dlqOf d.call.queue

/-- No other queue has its dead-letter queue at the exchange of a declared one,
and no queue is bound to its dead-letter exchange. -/
def Separate (ds : List Declaration) : Prop :=
  ∀ d ∈ ds, ∀ q, d.result = .ok q → ∀ d' ∈ ds,
    (d'.bound = true → d'.call.exchange = d.call.exchange → d'.call.queue = d.call.queue) ∧
    (∀ q', d'.result = .ok q' → d'.call.exchange ≠ dlxOf d.call.exchange)

section Isolation

variable {ds : List Declaration} {b b' : Broker}

theorem Leaves.mem_deadLettered (leaves : Leaves b ds b') {d : Declaration} (hd : d ∈ ds)
    {q : GoString} (hq : d.result = .ok q) (key queue : GoString) :
    queue ∈ b'.deadLettered q key ↔
      ∃ pattern, ⟨queue, pattern, dlxOf d.call.exchange⟩ ∈ b'.bindings ∧
        (⟨.topic, d.call.durable⟩ : Exchange).routes pattern key = true := by
  obtain ⟨-, hqueue, hdlx⟩ := leaves.queue d hd q hq
  simp only [Broker.deadLettered, hqueue, Option.bind_some]
  exact mem_route hdlx

theorem Leaves.isolated (leaves : Leaves b ds b') (fresh : b.bindings = [])
    (separate : Separate ds) : Isolated ds b' := by
  intro d hd q hq key queue
  rw [leaves.mem_deadLettered hd hq]
  constructor
  · rintro ⟨pattern, hr, -⟩
    rw [leaves.bindings, fresh] at hr
    obtain hr | ⟨d', hd', ⟨bound, same⟩ | ⟨q', hq', same⟩⟩ := hr
    · cases hr
    · rw [Call.dlqBinding, Binding.mk.injEq] at same
      have exchange : d.call.exchange = d'.call.exchange := List.append_cancel_right same.2.2
      rw [same.1, (separate d hd q hq d' hd').1 bound exchange.symm]
    · rw [Binding.mk.injEq] at same
      exact absurd same.2.2.symm ((separate d hd q hq d' hd').2 q' hq')
  · rintro rfl
    obtain ⟨bound, -, -⟩ := leaves.queue d hd q hq
    refine ⟨str "#", ?_, routes_hash rfl key⟩
    rw [leaves.bindings]
    exact .inr ⟨d, hd, .inl ⟨bound, rfl⟩⟩

theorem Leaves.separate (leaves : Leaves b ds b') (isolated : Isolated ds b') : Separate ds := by
  intro d hd q hq d' hd'
  have only : ∀ queue pattern, ⟨queue, pattern, dlxOf d.call.exchange⟩ ∈ b'.bindings →
      queue = dlqOf d.call.queue := by
    intro queue pattern hr
    rw [← isolated d hd q hq pattern queue, leaves.mem_deadLettered hd hq]
    exact ⟨pattern, hr, routes_self rfl pattern⟩
  constructor
  · intro bound exchange
    have same := only (dlqOf d'.call.queue) (str "#") (by
      rw [leaves.bindings, ← exchange]
      exact .inr ⟨d', hd', .inl ⟨bound, rfl⟩⟩)
    exact List.append_cancel_right same
  · intro q' hq' exchange
    have same := only q' d'.call.bindingKey (by
      rw [leaves.bindings, ← exchange]
      exact .inr ⟨d', hd', .inr ⟨q', hq', rfl⟩⟩)
    obtain ⟨bound, -, -⟩ := leaves.queue d hd q hq
    obtain ⟨-, hqueue, -⟩ := leaves.queue d' hd' q' hq'
    rw [same, leaves.dlq d hd bound] at hqueue
    simp at hqueue

end Isolation

/-- After any sequence of calls on a fresh broker, dead letters stay apart if and
only if the calls keep their exchanges apart. -/
theorem dead_letters_isolated_iff (exchanges : GoMap Exchange) (calls : List Call) :
    Isolated (declareAll (freshBroker exchanges) calls).1
        (declareAll (freshBroker exchanges) calls).2 ↔
      Separate (declareAll (freshBroker exchanges) calls).1 := by
  have leaves := declareAll_leaves (freshBroker exchanges) calls
  exact ⟨leaves.separate, leaves.isolated rfl⟩

def auditCall : Call := ⟨str "events", str "topic", str "audit", str "#", true⟩

def mailCall : Call := ⟨str "events", str "topic", str "mail", str "user.*", true⟩

/-- Two queues on one exchange: a message rejected from the first ends up in the
dead-letter queues of both. -/
theorem dead_letters_shared :
    (declareAll (freshBroker ∅) [auditCall, mailCall]).2.deadLettered (str "audit")
      (str "order.created") = [str "audit.dlq", str "mail.dlq"] := by
  decide

end DxCommonGo.Topology
