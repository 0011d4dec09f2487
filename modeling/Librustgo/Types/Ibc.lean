import Mathlib.Data.Option.Basic

/-!
The IBC channel messages of `types/ibc.go` and their accessors.

* `IBCEndpoint`, `IBCChannel`: a channel and its two ends.
* `IBCChannelOpenMsg`, `IBCChannelConnectMsg`, `IBCChannelCloseMsg`: each message is one of
  two steps of a handshake, held as two optional pointers.
* `firstChannel`: the body every `GetChannel` has: the first step's channel when it is
  set, else the second step's, dereferenced unchecked (`none` is the nil-pointer panic).
  `getChannel_eq_none_iff`: each `GetChannel` panics exactly when neither step is set.
* `counterVersion`: the body both `GetCounterVersion` have. The open message reads its
  second step (`OpenTry`), the connect message its first (`OpenAck`): a connect message
  reports a version only together with the same step's channel
  (`IBCChannelConnectMsg.getChannel_of_getCounterVersion`), while an open message with both
  steps set reports the channel of one and the version of the other
  (`IBCChannelOpenMsg.getChannel_getCounterVersion_of_both`).
* `IBCTimeoutBlock.isZero`: the zero height.
-/

namespace Librustgo

/-- `IBCEndpoint`. -/
structure IBCEndpoint where
  portID : String
  channelID : String
deriving DecidableEq

/-- `IBCChannel`; the order is one of the strings `ORDER_UNORDERED`, `ORDER_ORDERED`. -/
structure IBCChannel where
  endpoint : IBCEndpoint
  counterpartyEndpoint : IBCEndpoint
  order : String
  version : String
  connectionID : String
deriving DecidableEq

/-- `IBCOpenInit`. -/
structure IBCOpenInit where
  channel : IBCChannel
deriving DecidableEq

/-- `IBCOpenTry`. -/
structure IBCOpenTry where
  channel : IBCChannel
  counterpartyVersion : String
deriving DecidableEq

/-- `IBCChannelOpenMsg`. -/
structure IBCChannelOpenMsg where
  openInit : Option IBCOpenInit
  openTry : Option IBCOpenTry
deriving DecidableEq

/-- `IBCOpenAck`. -/
structure IBCOpenAck where
  channel : IBCChannel
  counterpartyVersion : String
deriving DecidableEq

/-- `IBCOpenConfirm`. -/
structure IBCOpenConfirm where
  channel : IBCChannel
deriving DecidableEq

/-- `IBCChannelConnectMsg`. -/
structure IBCChannelConnectMsg where
  openAck : Option IBCOpenAck
  openConfirm : Option IBCOpenConfirm
deriving DecidableEq

/-- `IBCCloseInit`. -/
structure IBCCloseInit where
  channel : IBCChannel
deriving DecidableEq

/-- `IBCCloseConfirm`. -/
structure IBCCloseConfirm where
  channel : IBCChannel
deriving DecidableEq

/-- `IBCChannelCloseMsg`. -/
structure IBCChannelCloseMsg where
  closeInit : Option IBCCloseInit
  closeConfirm : Option IBCCloseConfirm
deriving DecidableEq

/-! ### `GetChannel` -/

/-- `if first != nil { return first.Channel }; return second.Channel`: the second pointer
is dereferenced unchecked, and `none` is the panic of a nil one. -/
def firstChannel (first second : Option IBCChannel) : Option IBCChannel :=
  match first with
  | some c => some c
  | none => second

lemma firstChannel_eq_none_iff (first second : Option IBCChannel) :
    firstChannel first second = none ↔ first = none ∧ second = none := by
  cases first <;> simp [firstChannel]

/-- `IBCChannelOpenMsg.GetChannel`. -/
def IBCChannelOpenMsg.getChannel (msg : IBCChannelOpenMsg) : Option IBCChannel :=
  firstChannel (msg.openInit.map IBCOpenInit.channel) (msg.openTry.map IBCOpenTry.channel)

/-- `IBCChannelConnectMsg.GetChannel`. -/
def IBCChannelConnectMsg.getChannel (msg : IBCChannelConnectMsg) : Option IBCChannel :=
  firstChannel (msg.openAck.map IBCOpenAck.channel) (msg.openConfirm.map IBCOpenConfirm.channel)

/-- `IBCChannelCloseMsg.GetChannel`. -/
def IBCChannelCloseMsg.getChannel (msg : IBCChannelCloseMsg) : Option IBCChannel :=
  firstChannel (msg.closeInit.map IBCCloseInit.channel) (msg.closeConfirm.map IBCCloseConfirm.channel)

/-- `GetChannel` panics exactly on a message with no step set, for each of the three
messages. -/
lemma getChannel_eq_none_iff (o : IBCChannelOpenMsg) (c : IBCChannelConnectMsg)
    (k : IBCChannelCloseMsg) :
    (o.getChannel = none ↔ o.openInit = none ∧ o.openTry = none) ∧
      (c.getChannel = none ↔ c.openAck = none ∧ c.openConfirm = none) ∧
      (k.getChannel = none ↔ k.closeInit = none ∧ k.closeConfirm = none) := by
  simp only [IBCChannelOpenMsg.getChannel, IBCChannelConnectMsg.getChannel,
    IBCChannelCloseMsg.getChannel, firstChannel_eq_none_iff, Option.map_eq_none', and_self]

/-! ### `GetCounterVersion` -/

/-- `if step != nil { return step.CounterpartyVersion, true }; return "", false`. -/
def counterVersion (v : Option String) : String × Bool :=
  match v with
  | some v => (v, true)
  | none => ("", false)

/-- `IBCChannelOpenMsg.GetCounterVersion`: the version of `OpenTry`, the second step. -/
def IBCChannelOpenMsg.getCounterVersion (msg : IBCChannelOpenMsg) : String × Bool :=
  counterVersion (msg.openTry.map IBCOpenTry.counterpartyVersion)

/-- `IBCChannelConnectMsg.GetCounterVersion`: the version of `OpenAck`, the first step. -/
def IBCChannelConnectMsg.getCounterVersion (msg : IBCChannelConnectMsg) : String × Bool :=
  counterVersion (msg.openAck.map IBCOpenAck.counterpartyVersion)

lemma counterVersion_snd_eq_true_iff (v : Option String) :
    (counterVersion v).2 = true ↔ ∃ w, v = some w ∧ counterVersion v = (w, true) := by
  cases v <;> simp [counterVersion]

/-- A connect message reports a counterparty version only together with the channel of
the same `OpenAck`. -/
lemma IBCChannelConnectMsg.getChannel_of_getCounterVersion (msg : IBCChannelConnectMsg)
    (h : msg.getCounterVersion.2 = true) :
    ∃ ack, msg.openAck = some ack ∧ msg.getChannel = some ack.channel ∧
      msg.getCounterVersion = (ack.counterpartyVersion, true) := by
  obtain ⟨_, hv, hc⟩ := (counterVersion_snd_eq_true_iff _).mp h
  obtain ⟨ack, hack, rfl⟩ := Option.map_eq_some'.mp hv
  exact ⟨ack, hack, by simp [getChannel, hack, firstChannel], hc⟩

/-- An open message with both steps set reports the channel of `OpenInit` and the
counterparty version of `OpenTry`. -/
lemma IBCChannelOpenMsg.getChannel_getCounterVersion_of_both (msg : IBCChannelOpenMsg)
    {init : IBCOpenInit} {try_ : IBCOpenTry} (hi : msg.openInit = some init)
    (ht : msg.openTry = some try_) :
    msg.getChannel = some init.channel ∧
      msg.getCounterVersion = (try_.counterpartyVersion, true) := by
  simp [getChannel, getCounterVersion, hi, ht, firstChannel, counterVersion]

/-! ### Timeouts -/

/-- `IBCTimeoutBlock`: a height, ordered by revision and then height. -/
structure IBCTimeoutBlock where
  revision : UInt64
  height : UInt64
deriving DecidableEq

/-- `IBCTimeoutBlock.IsZero`. -/
def IBCTimeoutBlock.isZero (t : IBCTimeoutBlock) : Bool :=
  t.revision == 0 && t.height == 0

end Librustgo
