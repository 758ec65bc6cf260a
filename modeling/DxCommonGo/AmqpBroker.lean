import DxCommonGo.DxErrors
import DxCommonGo.GoMaps
import DxCommonGo.Programs
import Mathlib.Data.List.Infix

/-! An AMQP broker as its clients see it: exchanges, queues and bindings, and the queues that get a
message. Flags the code always leaves false are left out. -/

namespace DxCommonGo.AmqpBroker
open GoStrings GoMaps GoErrors DxErrors Programs

inductive ExchangeKind where
  | direct | fanout | topic | headers
  deriving DecidableEq

def exchangeKind? (name : GoString) : Option ExchangeKind :=
  if name = str "direct" then some .direct
  else if name = str "fanout" then some .fanout
  else if name = str "topic" then some .topic
  else if name = str "headers" then some .headers
  else none

structure Exchange where
  kind : ExchangeKind
  durable : Bool
  deriving DecidableEq

structure Queue where
  durable : Bool
  deadLetterExchange : Option GoString
  deriving DecidableEq

structure Binding where
  queue : GoString
  key : GoString
  exchange : GoString
  deriving DecidableEq

def reserved (name : GoString) : Bool := (str "amq.").isPrefixOf name

def generatedName (n : Nat) : GoString := str "amq.gen-" ++ itoaNat n

theorem generatedName_injective {m n : Nat} (h : generatedName m = generatedName n) : m = n := by
  have digits : itoaNat m = itoaNat n := List.append_cancel_left h
  have same := decimal_itoaNat m
  rw [digits, decimal_itoaNat] at same
  exact (Option.some.inj same).symm

theorem reserved_generatedName (n : Nat) : reserved (generatedName n) = true :=
  List.isPrefixOf_iff_prefix.mpr ⟨str "gen-" ++ itoaNat n, by
    rw [generatedName, ← List.append_assoc]
    rfl⟩

structure Broker where
  exchanges : GoMap Exchange
  queues : GoMap Queue
  bindings : List Binding
  generated : Nat
  current : GoString
  unused : ∀ n, generated ≤ n → generatedName n ∉ queues

inductive Op where
  | exchangeDeclare (name kind : GoString) (durable : Bool)
  | queueDeclare (name : GoString) (durable : Bool) (deadLetterExchange : Option GoString)
  | queueBind (queue key exchange : GoString)
  deriving DecidableEq

@[reducible] def Reply : Op → Type
  | .exchangeDeclare _ _ _ => Option GoError
  | .queueDeclare _ _ _ => Except GoError GoString
  | .queueBind _ _ _ => Option GoError

abbrev BrokerProg (α : Type) := Prog Op Reply α

abbrev ask (op : Op) : BrokerProg (Reply op) := perform op

def amqpError (reason : GoString) : GoError := leaf (.other (str "amqp.Error") reason)

def errClosedValue : ErrorValue :=
  .other (str "amqp.Error") (str "Exception (504) Reason: \"channel/connection is not open\"")

def errClosed : GoError := leaf errClosedValue

namespace Broker

variable (b : Broker)

def addExchange (name : GoString) (e : Exchange) : Broker :=
  { b with exchanges := b.exchanges.insert name e }

def addQueue (name : GoString) (q : Queue) (named : reserved name = false) : Broker :=
  { b with
    queues := b.queues.insert name q
    current := name
    unused := fun n hn => by
      rw [AList.mem_insert, not_or]
      refine ⟨?_, b.unused n hn⟩
      rintro rfl
      rw [reserved_generatedName] at named
      cases named }

def addGenerated (q : Queue) : Broker :=
  { b with
    queues := b.queues.insert (generatedName b.generated) q
    current := generatedName b.generated
    generated := b.generated + 1
    unused := fun n hn => by
      rw [AList.mem_insert, not_or]
      refine ⟨fun same => ?_, b.unused n (by omega)⟩
      have := generatedName_injective same
      omega }

def addBinding (binding : Binding) : Broker :=
  { b with bindings := b.bindings ++ [binding] }

def exchangeDeclare (name kind : GoString) (durable : Bool) : Option GoError × Broker :=
  if name = [] then (some (amqpError (str "ACCESS_REFUSED")), b)
  else
    match exchangeKind? kind with
    | none => (some (amqpError (str "COMMAND_INVALID")), b)
    | some kind =>
      match b.exchanges.lookup name with
      | some e =>
        if e = ⟨kind, durable⟩ then (none, b)
        else (some (amqpError (str "PRECONDITION_FAILED")), b)
      | none =>
        if reserved name then (some (amqpError (str "ACCESS_REFUSED")), b)
        else (none, b.addExchange name ⟨kind, durable⟩)

def queueDeclare (name : GoString) (durable : Bool) (dlx : Option GoString) :
    Except GoError GoString × Broker :=
  if name = [] then (.ok (generatedName b.generated), b.addGenerated ⟨durable, dlx⟩)
  else
    match b.queues.lookup name with
    | some q =>
      if q = ⟨durable, dlx⟩ then (.ok name, { b with current := name })
      else (.error (amqpError (str "PRECONDITION_FAILED")), b)
    | none =>
      if named : reserved name = false then (.ok name, b.addQueue name ⟨durable, dlx⟩ named)
      else (.error (amqpError (str "ACCESS_REFUSED")), b)

def queueBind (queue key exchange : GoString) : Option GoError × Broker :=
  let queue := if queue = [] then b.current else queue
  if exchange = [] then (some (amqpError (str "ACCESS_REFUSED")), b)
  else if exchange ∈ b.exchanges ∧ queue ∈ b.queues then
    (none, b.addBinding ⟨queue, key, exchange⟩)
  else (some (amqpError (str "NOT_FOUND")), b)

end Broker

def handler : Handler Op Reply Broker
  | .exchangeDeclare name kind durable, b => b.exchangeDeclare name kind durable
  | .queueDeclare name durable dlx, b => b.queueDeclare name durable dlx
  | .queueBind queue key exchange, b => b.queueBind queue key exchange

def topicWords (s : GoString) : List GoString := if s = [] then [] else split s 46

/-- A pattern of words against the words of a key: `*` stands for one word and
`#` for any number of them. -/
def wordsMatch : List GoString → List GoString → Bool
  | [], words => words.isEmpty
  | p :: ps, words =>
    if p = str "#" then words.tails.any fun rest => wordsMatch ps rest
    else
      match words with
      | [] => false
      | word :: rest => (decide (p = str "*") || decide (p = word)) && wordsMatch ps rest

theorem wordsMatch_self (ps : List GoString) : wordsMatch ps ps = true := by
  induction ps with
  | nil => rfl
  | cons p ps ih =>
    unfold wordsMatch
    split_ifs
    · rw [List.any_eq_true]
      exact ⟨ps, (List.mem_tails ps (p :: ps)).mpr (List.suffix_cons p ps), ih⟩
    · simp [ih]

def Exchange.routes (e : Exchange) (binding key : GoString) : Bool :=
  match e.kind with
  | .direct => decide (binding = key)
  | .fanout => true
  | .topic => wordsMatch (topicWords binding) (topicWords key)
  | .headers => true

theorem routes_hash {e : Exchange} (topic : e.kind = .topic) (key : GoString) :
    e.routes (str "#") key = true := by
  have hash : topicWords (str "#") = [str "#"] := by decide
  simp only [Exchange.routes, topic, hash, wordsMatch, if_true]
  rw [List.any_eq_true]
  exact ⟨[], (List.mem_tails [] (topicWords key)).mpr List.nil_suffix, rfl⟩

theorem routes_self {e : Exchange} (topic : e.kind = .topic) (key : GoString) :
    e.routes key key = true := by
  simp only [Exchange.routes, topic]
  exact wordsMatch_self _

def Broker.route (b : Broker) (exchange key : GoString) : List GoString :=
  match b.exchanges.lookup exchange with
  | none => []
  | some e =>
    (b.bindings.filter fun r => decide (r.exchange = exchange) && e.routes r.key key).map
      Binding.queue

/-- A rejected message is published again to the queue's dead-letter exchange, with the routing key
it had. -/
def Broker.deadLettered (b : Broker) (queue key : GoString) : List GoString :=
  match (b.queues.lookup queue).bind Queue.deadLetterExchange with
  | none => []
  | some dlx => b.route dlx key

structure Extends (b b' : Broker) : Prop where
  exchanges : ∀ name e, b.exchanges.lookup name = some e → b'.exchanges.lookup name = some e
  queues : ∀ name q, b.queues.lookup name = some q → b'.queues.lookup name = some q

theorem Extends.refl (b : Broker) : Extends b b := ⟨fun _ _ h => h, fun _ _ h => h⟩

theorem Extends.trans {b b' b'' : Broker} (h : Extends b b') (h' : Extends b' b'') :
    Extends b b'' :=
  ⟨fun name e he => h'.exchanges name e (h.exchanges name e he),
    fun name q hq => h'.queues name q (h.queues name q hq)⟩

theorem lookup_insert_of_some {β : Type} {m : GoMap β} {k k' : GoString} {v v' : β}
    (absent : m.lookup k = none) (h : m.lookup k' = some v') :
    (m.insert k v).lookup k' = some v' := by
  rw [AList.lookup_insert_ne, h]
  rintro rfl
  rw [absent] at h
  cases h

theorem exchangeDeclare_spec (b : Broker) (name kind : GoString) (durable : Bool) :
    (∃ err, b.exchangeDeclare name kind durable = (some err, b)) ∨
    ∃ b' k, b.exchangeDeclare name kind durable = (none, b') ∧ name ≠ [] ∧
      exchangeKind? kind = some k ∧ b'.exchanges.lookup name = some ⟨k, durable⟩ ∧
      Extends b b' ∧ b'.bindings = b.bindings := by
  unfold Broker.exchangeDeclare
  by_cases empty : name = []
  · rw [if_pos empty]
    exact .inl ⟨_, rfl⟩
  rw [if_neg empty]
  cases exchangeKind? kind with
  | none => exact .inl ⟨_, rfl⟩
  | some k =>
    cases found : b.exchanges.lookup name with
    | some e =>
      dsimp only
      split_ifs with same
      · subst same
        exact .inr ⟨b, k, rfl, empty, rfl, found, .refl b, rfl⟩
      · exact .inl ⟨_, rfl⟩
    | none =>
      dsimp only
      split_ifs
      · exact .inl ⟨_, rfl⟩
      · refine .inr ⟨_, k, rfl, empty, rfl, AList.lookup_insert _, ⟨?_, fun _ _ h => h⟩, rfl⟩
        exact fun name e he => lookup_insert_of_some found he

theorem queueDeclare_spec (b : Broker) (name : GoString) (durable : Bool)
    (dlx : Option GoString) :
    (∃ err, b.queueDeclare name durable dlx = (.error err, b)) ∨
    ∃ b' name', b.queueDeclare name durable dlx = (.ok name', b') ∧ b'.current = name' ∧
      (name ≠ [] → name' = name) ∧ b'.queues.lookup name' = some ⟨durable, dlx⟩ ∧
      Extends b b' ∧ b'.exchanges = b.exchanges ∧ b'.bindings = b.bindings := by
  unfold Broker.queueDeclare
  by_cases empty : name = []
  · rw [if_pos empty]
    have absent := AList.lookup_eq_none.mpr (b.unused b.generated le_rfl)
    refine .inr ⟨_, _, rfl, rfl, fun ne => absurd empty ne, AList.lookup_insert _,
      ⟨fun _ _ h => h, ?_⟩, rfl, rfl⟩
    exact fun name q hq => lookup_insert_of_some absent hq
  · rw [if_neg empty]
    cases found : b.queues.lookup name with
    | some q =>
      dsimp only
      split_ifs with same
      · subst same
        exact .inr ⟨_, name, rfl, rfl, fun _ => rfl, found, ⟨fun _ _ h => h, fun _ _ h => h⟩,
          rfl, rfl⟩
      · exact .inl ⟨_, rfl⟩
    | none =>
      dsimp only
      split_ifs with named
      · refine .inr ⟨_, name, rfl, rfl, fun _ => rfl, AList.lookup_insert _,
          ⟨fun _ _ h => h, ?_⟩, rfl, rfl⟩
        exact fun name q hq => lookup_insert_of_some found hq
      · exact .inl ⟨_, rfl⟩

theorem queueBind_spec {b : Broker} {queue name key exchange : GoString} {q : Queue} {e : Exchange}
    (named : (if queue = [] then b.current else queue) = name) (nonempty : exchange ≠ [])
    (hq : b.queues.lookup name = some q) (he : b.exchanges.lookup exchange = some e) :
    b.queueBind queue key exchange = (none, b.addBinding ⟨name, key, exchange⟩) := by
  have present : exchange ∈ b.exchanges ∧ name ∈ b.queues :=
    ⟨AList.lookup_isSome.mp (by rw [he]; rfl), AList.lookup_isSome.mp (by rw [hq]; rfl)⟩
  unfold Broker.queueBind
  rw [named]
  dsimp only
  rw [if_neg nonempty, if_pos present]

end DxCommonGo.AmqpBroker
