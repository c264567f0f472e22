import Chariott.Registry.Entities

/-!
# The Car Bridge's MQTT Subscriptions

`MqttMessaging::connect` takes, before connecting, one receiver of the MQTT
client's incoming items: `get_stream(MQTT_CLIENT_BUFFER_SIZE)` makes a bounded
`async_channel` of `Option<Message>` with room for 200 items, where `None` is
the client's notice of a lost connection. The client's callback `try_send`s
each incoming item into that channel, so an item that arrives while 200 items
are waiting is lost, as the comment in `connect` warns. Every call of
`Subscriber::subscribe` subscribes the client to the topic and returns a stream
over a clone of the receiver. The stream polls `receiver.next()` until the
channel closes, yields each message whose topic is the subscribed one, drops a
message on any other topic, and logs a `None`.

An `async_channel` has many consumers: the clones share one queue, and each
item goes to exactly one of them, whichever polls first. We model the shared
channel with the topics of the streams, and a run as any interleaving of the
client delivering items, `subscribe` calls and polls of the streams.

* `run_spec` characterises every run (`RunTrace`): the delivered items that
  found room in the channel are a sublist of those delivered, all of them when
  the channel never filled; the items handed out, followed by those still
  waiting, are the accepted ones, in order; each went to one stream; and the
  yields are exactly the items that went to a stream of their topic.
* `run_yields_safe`: every stream yields only messages on its own topic, and
  all streams together yield each delivered message at most once, in delivery
  order.
* `run_one_topic_lossless`: while all streams share one topic and the channel
  never fills, no message on that topic is lost. With streams of two topics,
  the channel can hand a message to the stream of the other topic, which drops
  it; and a message that finds the channel full is lost whatever the topics.
-/

namespace Chariott.CarBridge

/-! ## §1 Streams over one bounded receiver -/

/-- `paho_mqtt::Message`: the topic the stream compares, and the payload it hands on. -/
structure Message where
  topic : String
  payload : List UInt8
deriving DecidableEq, Repr

/-- The body of the `while let` loop of the stream `subscribe` returns, on one
item of the receiver: a message on the subscribed topic is yielded; a message on
another topic, or `None`, is not. -/
def streamYield (topic : String) : Option Message → Option Message
  | some message => if topic = message.topic then some message else none
  | none => none

/-- `MQTT_CLIENT_BUFFER_SIZE`: the capacity `connect` asks `get_stream` for. -/
def mqttClientBufferSize : Nat := 200

/-- `MqttMessaging`: the receiver `connect` took from the client, shared by
every stream `subscribe` returned. We keep the items its channel holds, oldest
first, and the topic of each stream, in the order of the `subscribe` calls. -/
structure MqttMessaging where
  pending : List (Option Message)
  topics : List String

/-- `MqttMessaging::connect` once it returned: an empty channel and no stream. -/
def MqttMessaging.connect : MqttMessaging := ⟨[], []⟩

/-- The client hands an incoming item to the channel of `get_stream`: its
callback `try_send`s the item, which joins the channel while fewer than
`MQTT_CLIENT_BUFFER_SIZE` items wait, and is lost otherwise. -/
def MqttMessaging.deliver (b : MqttMessaging) (item : Option Message) : MqttMessaging :=
  if b.pending.length < mqttClientBufferSize then ⟨b.pending ++ [item], b.topics⟩ else b

/-- `Subscriber::subscribe`: the error if the client's own `subscribe` fails,
otherwise a new stream for `topic` over a clone of the shared receiver. -/
def MqttMessaging.subscribe (b : MqttMessaging) (topic : String)
    (clientResult : Except Error Unit) : Except Error MqttMessaging :=
  match clientResult with
  | .error _ => .error ⟨"Could not subscribe to topic for receiving C2D messages."⟩
  | .ok () => .ok ⟨b.pending, b.topics ++ [topic]⟩

/-- Stream `k` polls `receiver.next()`: it takes the oldest item of the shared
channel, if there is one, and runs its loop body on it. The result is what it
yields, tagged with the stream. -/
def MqttMessaging.poll (b : MqttMessaging) (k : Nat) : MqttMessaging × Option (Nat × Message) :=
  match b.topics[k]?, b.pending with
  | some topic, item :: rest => (⟨rest, b.topics⟩, (streamYield topic item).map (k, ·))
  | _, _ => (b, none)

/-- One event of a run: the client receives an item; a caller calls
`subscribe`, and the client's own `subscribe` returns `clientResult`; or stream
`k` polls. -/
inductive Event
  | deliver (item : Option Message)
  | subscribe (topic : String) (clientResult : Except Error Unit)
  | poll (k : Nat)

/-- One event, and what a stream yields on it. -/
def MqttMessaging.step (b : MqttMessaging) : Event → MqttMessaging × Option (Nat × Message)
  | .deliver item => (b.deliver item, none)
  | .subscribe topic clientResult =>
    match b.subscribe topic clientResult with
    | .ok b' => (b', none)
    | .error _ => (b, none)
  | .poll k => b.poll k

/-- A run: the receiver after the events, and what the streams yielded, in order. -/
def MqttMessaging.run (b : MqttMessaging) : List Event → MqttMessaging × List (Nat × Message)
  | [] => (b, [])
  | e :: es =>
    let s := b.step e
    let t := s.1.run es
    (t.1, s.2.toList ++ t.2)

/-- `run` takes the first event, then runs the rest from the receiver it leaves. -/
@[simp] theorem MqttMessaging.run_cons (b : MqttMessaging) (e : Event) (es : List Event) :
    b.run (e :: es) = (((b.step e).1.run es).1, (b.step e).2.toList ++ ((b.step e).1.run es).2) :=
  rfl

/-- The items the client received in a run, in order. -/
def delivered : List Event → List (Option Message) :=
  List.filterMap fun
    | .deliver item => some item
    | _ => none

/-- Whether the channel has room for the event: only a delivery needs it. -/
def MqttMessaging.accepts (b : MqttMessaging) : Event → Bool
  | .deliver _ => decide (b.pending.length < mqttClientBufferSize)
  | _ => true

/-- Every item the run delivers finds room in the channel. -/
def MqttMessaging.neverFull (b : MqttMessaging) : List Event → Bool
  | [] => true
  | e :: es => b.accepts e && (b.step e).1.neverFull es

/-! ## §2 Every run -/

/-- What stream `p.1` yields on the item `p.2` it took, with streams of topics `topics`. -/
def yieldOf (topics : List String) (p : Nat × Option Message) : Option (Nat × Message) :=
  topics[p.1]?.bind fun topic => (streamYield topic p.2).map (p.1, ·)

/-- A stream yields only a message it received, and only on its own topic. -/
theorem streamYield_eq_some {topic : String} {item : Option Message} {m : Message}
    (h : streamYield topic item = some m) : item = some m ∧ m.topic = topic := by
  unfold streamYield at h
  split at h
  · split_ifs at h with ht
    cases h
    exact ⟨rfl, ht.symm⟩
  · cases h

/-- One event: the receiver after it, and its yield, are those of an item going
to a stream, or of the channel taking some of the delivered items (all of them
when it has room) and the streams growing. -/
theorem step_cases (b : MqttMessaging) (e : Event) :
    (∃ acc, acc.Sublist (delivered [e]) ∧ (b.accepts e = true → acc = delivered [e]) ∧
        (b.step e).1.pending = b.pending ++ acc ∧
        (∃ extra, (b.step e).1.topics = b.topics ++ extra) ∧ (b.step e).2 = none) ∨
      ∃ k item, delivered [e] = [] ∧ b.topics[k]?.isSome ∧
        b.pending = item :: (b.step e).1.pending ∧ (b.step e).1.topics = b.topics ∧
        (b.step e).2 = yieldOf b.topics (k, item) := by
  cases e with
  | deliver item =>
    by_cases hroom : b.pending.length < mqttClientBufferSize
    · refine .inl ⟨[item], .refl _, fun _ => rfl, ?_, ⟨[], ?_⟩, rfl⟩ <;>
        simp [MqttMessaging.step, MqttMessaging.deliver, hroom]
    · refine .inl ⟨[], List.nil_sublist _, by simp [MqttMessaging.accepts, hroom], ?_, ⟨[], ?_⟩,
        rfl⟩ <;> simp [MqttMessaging.step, MqttMessaging.deliver, hroom]
  | subscribe topic clientResult =>
    refine .inl ⟨[], .slnil, fun _ => rfl, ?_, ?_, ?_⟩ <;> rcases clientResult with _ | ⟨⟩ <;>
      simp [MqttMessaging.step, MqttMessaging.subscribe]
  | poll k =>
    simp only [MqttMessaging.step, MqttMessaging.poll]
    rcases hk : b.topics[k]? with _ | topic
    · exact .inl ⟨[], .slnil, fun _ => rfl, by simp, ⟨[], by simp⟩, rfl⟩
    rcases hp : b.pending with _ | ⟨item, rest⟩
    · exact .inl ⟨[], .slnil, fun _ => rfl, by simp [hp], ⟨[], by simp⟩, rfl⟩
    · exact .inr ⟨k, item, rfl, by simp [hk], rfl, rfl, by simp [yieldOf, hk]⟩

/-- How a run from `b` went: `accepted`, the delivered items that found room in
the channel, and `taken`, the items the streams took, each with the stream that
took it. -/
structure RunTrace (b : MqttMessaging) (es : List Event) where
  accepted : List (Option Message)
  taken : List (Nat × Option Message)
  accepted_sublist : accepted.Sublist (delivered es)
  accepted_of_neverFull : b.neverFull es = true → accepted = delivered es
  conserve : b.pending ++ accepted = taken.map Prod.snd ++ (b.run es).1.pending
  taker_lt : ∀ p ∈ taken, p.1 < (b.run es).1.topics.length
  yields : (b.run es).2 = taken.filterMap (yieldOf (b.run es).1.topics)
  topics_extend : ∃ extra, (b.run es).1.topics = b.topics ++ extra

/-- Every run hands the accepted items out in order, each to one existing
stream, and the streams yield exactly the items that went to a stream of their
topic. -/
theorem run_spec : ∀ (es : List Event) (b : MqttMessaging), Nonempty (RunTrace b es)
  | [], b => ⟨⟨[], [], .slnil, fun _ => rfl, by simp [MqttMessaging.run], by simp, rfl,
      ⟨[], by simp [MqttMessaging.run]⟩⟩⟩
  | e :: es, b => by
    obtain ⟨⟨acc, rec, hsub, hfull, hpend, hlt, hyield, extra, htop⟩⟩ := run_spec es (b.step e).1
    have hdel : delivered (e :: es) = delivered [e] ++ delivered es := by
      cases e <;> rfl
    have hnf : b.neverFull (e :: es) = true → b.accepts e = true ∧ (b.step e).1.neverFull es = true :=
      fun h => (Bool.and_eq_true _ _).mp h
    rcases step_cases b e with ⟨acc₁, hsub₁, hfull₁, hp, ⟨extra₁, ht⟩, hy⟩ |
      ⟨k, item, hnil, hk, hp, ht, hy⟩
    · refine ⟨⟨acc₁ ++ acc, rec, hdel ▸ hsub₁.append hsub, fun h => ?_, ?_, hlt,
        by rw [MqttMessaging.run_cons, hy, hyield]; rfl, extra₁ ++ extra, by simp [htop, ht]⟩⟩
      · rw [hdel, hfull₁ (hnf h).1, hfull (hnf h).2]
      · rw [MqttMessaging.run_cons, ← List.append_assoc, ← hp, hpend]
    · have hlen : k < b.topics.length := by
        simpa [List.getElem?_eq_none_iff, Option.isSome_iff_ne_none] using hk
      have hget : ((b.step e).1.run es).1.topics[k]? = b.topics[k]? := by
        rw [htop, ht, List.getElem?_append_left hlen]
      refine ⟨⟨acc, (k, item) :: rec, by simpa [hdel, hnil] using hsub,
        fun h => by rw [hdel, hnil, hfull (hnf h).2]; rfl, ?_, ?_, ?_, extra,
        by rw [MqttMessaging.run_cons, htop, ht]⟩⟩
      · rw [MqttMessaging.run_cons, hp]
        simpa using hpend
      · intro p hmem
        rcases List.mem_cons.mp hmem with rfl | hpr
        · simpa [htop, ht] using Nat.lt_of_lt_of_le hlen (by simp)
        · exact hlt p hpr
      · rw [MqttMessaging.run_cons, hyield, List.filterMap_cons, hy]
        simp only [yieldOf, hget]
        cases (b.topics[k]?.bind fun topic => (streamYield topic item).map (k, ·)) <;> rfl

/-! ## §3 What the streams yield -/

/-- A yield is a message the stream received, on the stream's own topic. -/
theorem yieldOf_eq_some {topics : List String} {p : Nat × Option Message} {q : Nat × Message}
    (h : yieldOf topics p = some q) : q.1 = p.1 ∧ p.2 = some q.2 ∧ topics[p.1]? = some q.2.topic := by
  obtain ⟨topic, ht, hy⟩ := Option.bind_eq_some.mp h
  obtain ⟨m, hm, rfl⟩ := Option.map_eq_some'.mp hy
  obtain ⟨hitem, htopic⟩ := streamYield_eq_some hm
  exact ⟨rfl, hitem, by rw [htopic]; exact ht⟩

/-- Keeping fewer of the values that `g` keeps gives a sublist. -/
theorem filterMap_sublist_of_imp {α β : Type} {f g : α → Option β}
    (h : ∀ a b, f a = some b → g a = some b) :
    ∀ l : List α, List.Sublist (l.filterMap f) (l.filterMap g)
  | [] => .slnil
  | a :: l => by
    rw [List.filterMap_cons, List.filterMap_cons]
    rcases hf : f a with _ | b
    · exact (filterMap_sublist_of_imp h l).trans (by split <;> simp)
    · rw [h a b hf]
      exact (filterMap_sublist_of_imp h l).cons₂ b

/-- Over every run from `connect`, a stream yields only messages on its own
topic, and the yields of all streams together, in the order they happen, are a
sublist of the delivered messages: each delivered message is yielded at most
once, by one stream, and no two are yielded out of delivery order. -/
theorem run_yields_safe (es : List Event) :
    (∀ p ∈ (MqttMessaging.connect.run es).2,
        (MqttMessaging.connect.run es).1.topics[p.1]? = some p.2.topic) ∧
      ((MqttMessaging.connect.run es).2.map Prod.snd).Sublist ((delivered es).filterMap id) := by
  obtain ⟨t⟩ := run_spec es MqttMessaging.connect
  refine ⟨fun p hp => ?_, ?_⟩
  · obtain ⟨q, -, hq⟩ := List.mem_filterMap.mp (t.yields ▸ hp)
    obtain ⟨h1, -, h3⟩ := yieldOf_eq_some hq
    rwa [h1]
  · have hacc : t.accepted.filterMap id =
        (t.taken.map Prod.snd).filterMap id ++ (MqttMessaging.connect.run es).1.pending.filterMap id := by
      rw [← List.filterMap_append, ← t.conserve]
      rfl
    rw [t.yields, List.map_filterMap]
    calc List.Sublist _ ((t.taken.map Prod.snd).filterMap id) := by
          rw [List.filterMap_map]
          refine filterMap_sublist_of_imp (fun p m hp => ?_) t.taken
          obtain ⟨q, hq, rfl⟩ := Option.map_eq_some'.mp hp
          exact (yieldOf_eq_some hq).2.1
      List.Sublist _ (t.accepted.filterMap id) := hacc ▸ List.sublist_append_left _ _
      List.Sublist _ ((delivered es).filterMap id) := t.accepted_sublist.filterMap id

/-- While every stream subscribes to one topic `t` and every delivered item
finds room in the channel, no message on `t` is lost: the messages the streams
yielded, followed by the messages on `t` still in the channel, are all the
messages on `t` delivered, in order. -/
theorem run_one_topic_lossless (es : List Event) (t : String)
    (hroom : MqttMessaging.connect.neverFull es = true)
    (ht : ∀ topic ∈ (MqttMessaging.connect.run es).1.topics, topic = t) :
    (MqttMessaging.connect.run es).2.map Prod.snd ++
        (MqttMessaging.connect.run es).1.pending.filterMap (streamYield t) =
      (delivered es).filterMap (streamYield t) := by
  obtain ⟨tr⟩ := run_spec es MqttMessaging.connect
  have hone : ∀ p ∈ tr.taken, ((yieldOf (MqttMessaging.connect.run es).1.topics p).map Prod.snd) =
      streamYield t p.2 := fun p hp => by
    have hget := List.getElem?_eq_getElem (tr.taker_lt p hp)
    simp [yieldOf, hget, ht _ (List.getElem_mem (tr.taker_lt p hp))]
  have hpend : tr.accepted = tr.taken.map Prod.snd ++ (MqttMessaging.connect.run es).1.pending :=
    tr.conserve
  rw [tr.yields, ← tr.accepted_of_neverFull hroom, hpend, List.filterMap_append, List.map_filterMap,
    List.filterMap_congr hone, List.filterMap_map]
  rfl

/-- One stream on `t`, fed one message on `t` into an empty channel. -/
theorem run_one_topic_lossless_single :
    MqttMessaging.connect.neverFull [.subscribe "t" (.ok ()), .deliver (some ⟨"t", []⟩),
        .poll 0] = true ∧
      (∀ topic ∈ (MqttMessaging.connect.run [.subscribe "t" (.ok ()), .deliver (some ⟨"t", []⟩),
        .poll 0]).1.topics, topic = "t") ∧
      (MqttMessaging.connect.run [.subscribe "t" (.ok ()), .deliver (some ⟨"t", []⟩),
          .poll 0]).2.map Prod.snd ++
        (MqttMessaging.connect.run [.subscribe "t" (.ok ()), .deliver (some ⟨"t", []⟩),
          .poll 0]).1.pending.filterMap (streamYield "t") =
      (delivered [.subscribe "t" (.ok ()), .deliver (some ⟨"t", []⟩), .poll 0]).filterMap
        (streamYield "t") :=
  ⟨by decide, by decide, run_one_topic_lossless _ "t" (by decide) (by decide)⟩

/- With streams on `a` and `b`, a message on `a` that the stream on `b` takes
is dropped: no stream yields it, and the channel no longer holds it. -/
example : (MqttMessaging.connect.run [.subscribe "a" (.ok ()), .subscribe "b" (.ok ()),
      .deliver (some ⟨"a", []⟩), .poll 1]).2 = [] ∧
    (MqttMessaging.connect.run [.subscribe "a" (.ok ()), .subscribe "b" (.ok ()),
      .deliver (some ⟨"a", []⟩), .poll 1]).1.pending = [] := by
  decide

end Chariott.CarBridge
