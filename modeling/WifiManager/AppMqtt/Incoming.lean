/-
`components/app_mqtt`: commands that arrive in fragments.

`handle_mqtt_data` runs on every MQTT_EVENT_DATA event. A fragment with offset 0 begins a
message, the others have to continue it where it stands, and the fragment that completes it
hands the command on. The buffers are modelled with their accesses checked
(`Lib.Buffer`): a result of `none` stands for undefined behaviour, a read or a write
outside of a buffer or an overflow of `int`.

1. `incoming_t` is a message under way with no buffers: a topic, a total and the bytes
   received, with the limits as fields. `assemble` is the step of this assembler.
2. `handle_mqtt_data_assembles`: the source's function is that step, from every state
   that `Holds` what has been assembled, and its behaviour is defined.
3. What is delivered is a complete message, and every message in order is delivered.
-/
import Mathlib.Algebra.BigOperators.Group.List.Basic
import WifiManager.Esp
import WifiManager.Lib.Buffer
import WifiManager.Lib.CString
import WifiManager.Lib.Machine

set_option autoImplicit false

namespace WifiManager.AppMqtt

open WifiManager.Lib WifiManager.Lib.Buffer

/-! ## Data -/

abbrev APP_MQTT_COMMAND_TOPIC_SIZE : ℕ := 128
abbrev APP_MQTT_COMMAND_PAYLOAD_SIZE : ℕ := 2048

/-- `esp_mqtt_event_t`, as far as it is read here: `none` is a NULL pointer, a list the
memory that may be read behind another one. What the MQTT client promises is in the last
four fields. -/
structure esp_mqtt_event_t where
  topic : Option (List UInt8)
  topic_len : ℤ
  data : Option (List UInt8)
  data_len : ℤ
  total_data_len : ℤ
  current_data_offset : ℤ
  topic_readable : ∀ bytes ∈ topic, topic_len ≤ bytes.length
  topic_text : ∀ bytes ∈ topic, 0 ∉ bytes.take topic_len.toNat
  data_readable : ∀ bytes ∈ data, data_len ≤ bytes.length
  data_len_lt : data_len < 1073741824

/-- The static variables of a message under way. -/
structure app_mqtt_t where
  s_incoming_topic : List UInt8 := List.replicate APP_MQTT_COMMAND_TOPIC_SIZE 0
  s_incoming_payload : List UInt8 := List.replicate APP_MQTT_COMMAND_PAYLOAD_SIZE 0
  s_incoming_expected : ℤ := 0
  s_incoming_received : ℤ := 0

/-- What the command handler is called with: the bytes of the topic and of the payload. -/
structure mqtt_command_t where
  topic : c_string
  payload : List UInt8
  deriving DecidableEq, Repr

/-! ## The source -/

/-- `reset_incoming_command`. -/
def reset_incoming_command (mqtt : app_mqtt_t) : Option app_mqtt_t := do
  let topic ← store mqtt.s_incoming_topic 0 [0]
  let payload ← store mqtt.s_incoming_payload 0 [0]
  return ⟨topic, payload, 0, 0⟩

/-- `handle_mqtt_data`, from the check that the fragment continues the message.
`s_command_handler` says whether a handler is set. -/
def store_fragment (s_command_handler : Bool) (mqtt : app_mqtt_t) (event : esp_mqtt_event_t) :
    Option (app_mqtt_t × Option mqtt_command_t) := do
  if mqtt.s_incoming_expected = 0 ∨ event.current_data_offset ≠ mqtt.s_incoming_received then
    return (← reset_incoming_command mqtt, none)
  -- the offset is one of the buffer by now, so the sum is small
  let fragment_end ← int_add event.current_data_offset event.data_len
  if fragment_end > mqtt.s_incoming_expected then
    return (← reset_incoming_command mqtt, none)
  let bytes ← load (← event.data) 0 event.data_len.toNat
  let payload ← store mqtt.s_incoming_payload event.current_data_offset.toNat bytes
  let received ← int_add mqtt.s_incoming_received event.data_len
  let mqtt : app_mqtt_t :=
    { mqtt with s_incoming_payload := payload, s_incoming_received := received }
  if received ≠ mqtt.s_incoming_expected then
    return (mqtt, none)
  let payload ← store mqtt.s_incoming_payload received.toNat [0]
  let mqtt : app_mqtt_t := { mqtt with s_incoming_payload := payload }
  if s_command_handler = true then
    let topic ← CString.before_chr mqtt.s_incoming_topic 0
    let bytes ← load mqtt.s_incoming_payload 0 received.toNat
    return (← reset_incoming_command mqtt, some ⟨topic, bytes⟩)
  return (← reset_incoming_command mqtt, none)

/-- `handle_mqtt_data`. -/
def handle_mqtt_data (s_command_handler : Bool) (mqtt : app_mqtt_t) :
    Option esp_mqtt_event_t → Option (app_mqtt_t × Option mqtt_command_t)
  | none => do return (← reset_incoming_command mqtt, none)
  | some event => do
      if event.data = none ∨ event.data_len < 0 ∨ event.total_data_len ≤ 0 ∨
          event.current_data_offset < 0 then
        return (← reset_incoming_command mqtt, none)
      if event.current_data_offset ≠ 0 then
        store_fragment s_command_handler mqtt event
      else
        let mqtt ← reset_incoming_command mqtt
        if event.topic = none ∨ event.topic_len ≤ 0 ∨
            event.topic_len ≥ APP_MQTT_COMMAND_TOPIC_SIZE ∨
            event.total_data_len ≥ APP_MQTT_COMMAND_PAYLOAD_SIZE then
          return (mqtt, none)
        let bytes ← load (← event.topic) 0 event.topic_len.toNat
        let topic ← store mqtt.s_incoming_topic 0 bytes
        let topic ← store topic event.topic_len.toNat [0]
        store_fragment s_command_handler
          { mqtt with s_incoming_topic := topic, s_incoming_expected := event.total_data_len }
          event

/-- The events one after the other, with the commands they lead to. -/
def handle_mqtt_events (s_command_handler : Bool) (mqtt : app_mqtt_t) :
    List (Option esp_mqtt_event_t) → Option (app_mqtt_t × List mqtt_command_t)
  | [] => some (mqtt, [])
  | event :: events => do
      let (mqtt, command) ← handle_mqtt_data s_command_handler mqtt event
      let (mqtt, commands) ← handle_mqtt_events s_command_handler mqtt events
      return (mqtt, command.toList ++ commands)

/-! ## The assembler -/

/-- The bytes of a fragment. -/
def esp_mqtt_event_t.bytes (event : esp_mqtt_event_t) : List UInt8 :=
  (event.data.getD []).take event.data_len.toNat

/-- The bytes of its topic. -/
def esp_mqtt_event_t.topic_bytes (event : esp_mqtt_event_t) : List UInt8 :=
  (event.topic.getD []).take event.topic_len.toNat

/-- A message under way: it has a topic that fits, and bytes are missing. -/
structure incoming_t where
  topic : List UInt8
  total : ℕ
  received : List UInt8
  topic_length : 1 ≤ topic.length ∧ topic.length < APP_MQTT_COMMAND_TOPIC_SIZE
  topic_text : 0 ∉ topic
  missing : received.length < total
  total_lt : total < APP_MQTT_COMMAND_PAYLOAD_SIZE

/-- An event that carries a fragment at all. -/
def esp_mqtt_event_t.IsFragment (event : esp_mqtt_event_t) : Prop :=
  event.data ≠ none ∧ 0 ≤ event.data_len ∧ 0 < event.total_data_len ∧
    0 ≤ event.current_data_offset

/-- An event that may begin a message. -/
def esp_mqtt_event_t.Begins (event : esp_mqtt_event_t) : Prop :=
  event.topic ≠ none ∧ 0 < event.topic_len ∧ event.topic_len < APP_MQTT_COMMAND_TOPIC_SIZE ∧
    0 < event.total_data_len ∧ event.total_data_len < APP_MQTT_COMMAND_PAYLOAD_SIZE

instance (event : esp_mqtt_event_t) : Decidable event.IsFragment :=
  inferInstanceAs (Decidable (_ ∧ _))

instance (event : esp_mqtt_event_t) : Decidable event.Begins :=
  inferInstanceAs (Decidable (_ ∧ _))

/-- The first check of the source. -/
theorem isFragment_iff {event : esp_mqtt_event_t} :
    event.IsFragment ↔ ¬ (event.data = none ∨ event.data_len < 0 ∨ event.total_data_len ≤ 0 ∨
      event.current_data_offset < 0) := by
  unfold esp_mqtt_event_t.IsFragment
  push Not
  rfl

/-- Its check of a first fragment. -/
theorem begins_iff {event : esp_mqtt_event_t} (h : event.IsFragment) :
    event.Begins ↔ ¬ (event.topic = none ∨ event.topic_len ≤ 0 ∨
      event.topic_len ≥ APP_MQTT_COMMAND_TOPIC_SIZE ∨
      event.total_data_len ≥ APP_MQTT_COMMAND_PAYLOAD_SIZE) := by
  have htotal := h.2.2.1
  unfold esp_mqtt_event_t.Begins
  push Not
  simp only [htotal, true_and]

theorem topic_bytes_length {event : esp_mqtt_event_t} (h : event.Begins) :
    (event.topic_bytes.length : ℤ) = event.topic_len := by
  obtain ⟨htopic, hpos, -⟩ := h
  obtain ⟨bytes, hbytes⟩ := Option.ne_none_iff_exists'.mp htopic
  have hread := event.topic_readable bytes hbytes
  rw [esp_mqtt_event_t.topic_bytes, hbytes, Option.getD_some, List.length_take]
  omega

theorem bytes_length {event : esp_mqtt_event_t} (h : event.IsFragment) :
    (event.bytes.length : ℤ) = event.data_len := by
  obtain ⟨hdata, hpos, -⟩ := h
  obtain ⟨bytes, hbytes⟩ := Option.ne_none_iff_exists'.mp hdata
  have hread := event.data_readable bytes hbytes
  rw [esp_mqtt_event_t.bytes, hbytes, Option.getD_some, List.length_take]
  omega

/-- A message of which nothing has been received. -/
def begin_message (event : esp_mqtt_event_t) : Option incoming_t :=
  if h : event.Begins then
    some
      { topic := event.topic_bytes
        total := event.total_data_len.toNat
        received := []
        topic_length := by
          have hlength := topic_bytes_length h
          obtain ⟨-, hpos, hlt, -⟩ := h
          constructor <;> omega
        topic_text := by
          obtain ⟨htopic, -⟩ := h
          obtain ⟨bytes, hbytes⟩ := Option.ne_none_iff_exists'.mp htopic
          rw [esp_mqtt_event_t.topic_bytes, hbytes]
          exact event.topic_text bytes hbytes
        missing := by
          obtain ⟨-, -, -, hpos, -⟩ := h
          rw [List.length_nil]
          omega
        total_lt := by
          obtain ⟨-, -, -, hpos, hlt⟩ := h
          omega }
  else none

theorem begin_message_begins {event : esp_mqtt_event_t} (h : event.Begins) :
    ∃ message, begin_message event = some message ∧ message.topic = event.topic_bytes ∧
      (message.total : ℤ) = event.total_data_len ∧ message.received = [] :=
  ⟨_, dif_pos h, rfl, Int.toNat_of_nonneg (Int.le_of_lt h.2.2.2.1), rfl⟩

/-- More bytes of a message, with some still missing. -/
def incoming_t.extend (message : incoming_t) (bytes : List UInt8)
    (h : message.received.length + bytes.length < message.total) : incoming_t :=
  { message with
    received := message.received ++ bytes
    missing := by rw [List.length_append]; exact h }

/-- A fragment for the message under way: it is taken if it starts where the message stands
and does not reach over the total. -/
def continue_message (message : incoming_t) (event : esp_mqtt_event_t) :
    Option incoming_t × Option mqtt_command_t :=
  if event.current_data_offset ≠ message.received.length then (none, none)
  else if h : message.received.length + event.bytes.length < message.total then
    (some (message.extend event.bytes h), none)
  else if message.received.length + event.bytes.length = message.total then
    (none, some ⟨message.topic, message.received ++ event.bytes⟩)
  else (none, none)

section Continue

variable {message : incoming_t} {event : esp_mqtt_event_t}

theorem continue_message_elsewhere
    (h : event.current_data_offset ≠ message.received.length) :
    continue_message message event = (none, none) :=
  if_pos h

theorem continue_message_over (h : message.total < message.received.length + event.bytes.length) :
    continue_message message event = (none, none) := by
  have hopen : ¬ message.received.length + event.bytes.length < message.total := by omega
  have hcomplete : message.received.length + event.bytes.length ≠ message.total := by omega
  rw [continue_message, dif_neg hopen, if_neg hcomplete, ite_self]

theorem continue_message_open (hoffset : event.current_data_offset = message.received.length)
    (h : message.received.length + event.bytes.length < message.total) :
    continue_message message event = (some (message.extend event.bytes h), none) := by
  rw [continue_message, if_neg (not_not.mpr hoffset), dif_pos h]

theorem continue_message_complete
    (hoffset : event.current_data_offset = message.received.length)
    (h : message.received.length + event.bytes.length = message.total) :
    continue_message message event
      = (none, some ⟨message.topic, message.received ++ event.bytes⟩) := by
  rw [continue_message, if_neg (not_not.mpr hoffset), dif_neg (by omega), if_pos h]

end Continue

/-- The message that a fragment is for. -/
def addressed (current : Option incoming_t) (event : esp_mqtt_event_t) : Option incoming_t :=
  if event.current_data_offset = 0 then begin_message event else current

/-- One event. -/
def assemble (current : Option incoming_t) :
    Option esp_mqtt_event_t → Option incoming_t × Option mqtt_command_t
  | none => (none, none)
  | some event =>
      if ¬ event.IsFragment then (none, none)
      else
        match addressed current event with
        | none => (none, none)
        | some message => continue_message message event

/-- **What one event can do**: it continues the message it is for, completes it, or leaves
nothing. -/
theorem assemble_cases (current : Option incoming_t) (event : Option esp_mqtt_event_t) :
    (∃ fragment message, event = some fragment ∧ fragment.IsFragment ∧
        addressed current fragment = some message ∧
        fragment.current_data_offset = message.received.length ∧
        ((∃ h, assemble current event = (some (message.extend fragment.bytes h), none)) ∨
          (message.received.length + fragment.bytes.length = message.total ∧
            assemble current event
              = (none, some ⟨message.topic, message.received ++ fragment.bytes⟩)))) ∨
      assemble current event = (none, none) := by
  rcases event with - | fragment
  · exact .inr rfl
  by_cases hfragment : fragment.IsFragment
  swap
  · exact .inr (if_pos hfragment)
  have hstep : assemble current (some fragment)
      = match addressed current fragment with
        | none => (none, none)
        | some message => continue_message message fragment := if_neg (not_not.mpr hfragment)
  rw [hstep]
  cases hmessage : addressed current fragment with
  | none => exact .inr rfl
  | some message =>
      by_cases hoffset : fragment.current_data_offset = message.received.length
      swap
      · exact .inr (continue_message_elsewhere hoffset)
      rcases Nat.lt_trichotomy (message.received.length + fragment.bytes.length) message.total
        with hlt | heq | hgt
      · exact .inl ⟨fragment, message, rfl, hfragment, hmessage, hoffset,
          .inl ⟨hlt, continue_message_open hoffset hlt⟩⟩
      · exact .inl ⟨fragment, message, rfl, hfragment, hmessage, hoffset,
          .inr ⟨heq, continue_message_complete hoffset heq⟩⟩
      · exact .inr (continue_message_over hgt)

/-! ## The source is the assembler -/

/-- The buffers have their sizes. -/
structure Sized (mqtt : app_mqtt_t) : Prop where
  topic_size : mqtt.s_incoming_topic.length = APP_MQTT_COMMAND_TOPIC_SIZE
  payload_size : mqtt.s_incoming_payload.length = APP_MQTT_COMMAND_PAYLOAD_SIZE

/-- Nothing of a message is kept. -/
structure Idle (mqtt : app_mqtt_t) : Prop extends Sized mqtt where
  topic_empty : [0] <+: mqtt.s_incoming_topic
  payload_empty : [0] <+: mqtt.s_incoming_payload
  nothing_expected : mqtt.s_incoming_expected = 0
  nothing_received : mqtt.s_incoming_received = 0

/-- The buffers hold a message under way. -/
structure Holding (mqtt : app_mqtt_t) (message : incoming_t) : Prop extends Sized mqtt where
  topic_held : message.topic ++ [0] <+: mqtt.s_incoming_topic
  payload_held : message.received <+: mqtt.s_incoming_payload
  expected_eq : mqtt.s_incoming_expected = message.total
  received_eq : mqtt.s_incoming_received = message.received.length

/-- What the static variables stand for. -/
def Holds (mqtt : app_mqtt_t) : Option incoming_t → Prop
  | none => Idle mqtt
  | some message => Holding mqtt message

theorem Holds.sized {mqtt : app_mqtt_t} {current : Option incoming_t} (h : Holds mqtt current) :
    Sized mqtt := by
  cases current with
  | none => exact Idle.toSized h
  | some message => exact Holding.toSized h

theorem idle_init : Idle {} := by
  refine ⟨⟨?_, ?_⟩, ?_, ?_, rfl, rfl⟩
  · exact List.length_replicate
  · exact List.length_replicate
  · exact ⟨List.replicate 127 0, rfl⟩
  · exact ⟨List.replicate 2047 0, rfl⟩

theorem holds_init : Holds {} none := idle_init

theorem reset_incoming_command_idle {mqtt : app_mqtt_t} (h : Sized mqtt) :
    ∃ mqtt', reset_incoming_command mqtt = some mqtt' ∧ Idle mqtt' := by
  have htopic_room : [(0 : UInt8)].length ≤ mqtt.s_incoming_topic.length := by
    rw [h.topic_size]
    decide
  have hpayload_room : [(0 : UInt8)].length ≤ mqtt.s_incoming_payload.length := by
    rw [h.payload_size]
    decide
  obtain ⟨topic, htopic, htopic_size, htopic_front⟩ := store_front [0] htopic_room
  obtain ⟨payload, hpayload, hpayload_size, hpayload_front⟩ := store_front [0] hpayload_room
  refine ⟨⟨topic, payload, 0, 0⟩, ?_, ⟨?_, ?_⟩, htopic_front, hpayload_front, rfl, rfl⟩
  · simp only [reset_incoming_command, htopic, hpayload, Option.bind_eq_bind, Option.bind_some,
      Option.pure_def]
  · rw [htopic_size, h.topic_size]
  · rw [hpayload_size, h.payload_size]

/-- Where a fragment is refused, nothing is kept. -/
theorem reset_without_command {mqtt : app_mqtt_t} (h : Sized mqtt) :
    ∃ mqtt', (do return (← reset_incoming_command mqtt, none) :
        Option (app_mqtt_t × Option mqtt_command_t)) = some (mqtt', none) ∧ Idle mqtt' := by
  obtain ⟨mqtt', hreset, hidle⟩ := reset_incoming_command_idle h
  exact ⟨mqtt', by rw [hreset]; rfl, hidle⟩

theorem store_fragment_idle (s_command_handler : Bool) {mqtt : app_mqtt_t} (h : Idle mqtt)
    (event : esp_mqtt_event_t) :
    ∃ mqtt', store_fragment s_command_handler mqtt event = some (mqtt', none) ∧ Idle mqtt' := by
  rw [store_fragment, if_pos (.inl h.nothing_expected)]
  exact reset_without_command h.toSized

/-- The command, if somebody is there to take it. -/
def handed_on (s_command_handler : Bool) (command : Option mqtt_command_t) :
    Option mqtt_command_t :=
  if s_command_handler = true then command else none

@[simp] theorem handed_on_none (s_command_handler : Bool) :
    handed_on s_command_handler none = none := by
  cases s_command_handler <;> rfl

/-- Storing the bytes of a fragment behind what the message has. -/
theorem store_bytes {mqtt : app_mqtt_t} {message : incoming_t} (h : Holding mqtt message)
    {event : esp_mqtt_event_t} (hfragment : event.IsFragment)
    (hoffset : event.current_data_offset = message.received.length)
    (hfits : message.received.length + event.bytes.length ≤ message.total) :
    ∃ bytes payload, event.data = some bytes ∧
      load bytes 0 event.data_len.toNat = some event.bytes ∧
      store mqtt.s_incoming_payload event.current_data_offset.toNat event.bytes
        = some payload ∧
      payload.length = APP_MQTT_COMMAND_PAYLOAD_SIZE ∧
      message.received ++ event.bytes <+: payload := by
  obtain ⟨bytes, hbytes⟩ := Option.ne_none_iff_exists'.mp hfragment.1
  have hread := event.data_readable bytes hbytes
  have hroom : message.received.length + event.bytes.length ≤ mqtt.s_incoming_payload.length := by
    rw [h.payload_size]
    exact Nat.le_trans hfits (Nat.le_of_lt message.total_lt)
  obtain ⟨payload, hstore, hsize, hfront⟩ := store_append h.payload_held event.bytes hroom
  refine ⟨bytes, payload, hbytes, ?_, ?_, hsize.trans h.payload_size, hfront⟩
  · rw [load_eq_some (by omega), List.drop_zero, esp_mqtt_event_t.bytes, hbytes,
      Option.getD_some]
  · rwa [hoffset, Int.toNat_natCast]

/-- **Continuing a message**: every access is inside its buffer. -/
theorem store_fragment_continues (s_command_handler : Bool) {mqtt : app_mqtt_t}
    {message : incoming_t} (h : Holding mqtt message) {event : esp_mqtt_event_t}
    (hfragment : event.IsFragment) :
    ∃ mqtt', store_fragment s_command_handler mqtt event
        = some (mqtt', handed_on s_command_handler (continue_message message event).2) ∧
      Holds mqtt' (continue_message message event).1 := by
  have hlength := bytes_length hfragment
  have hmissing := message.missing
  have htotal : message.total < 2048 := message.total_lt
  have hlen_lt := event.data_len_lt
  have hopen : mqtt.s_incoming_expected ≠ 0 := by rw [h.expected_eq]; omega
  rw [store_fragment]
  by_cases hoffset : event.current_data_offset = message.received.length
  swap
  · -- the fragment is for another place
    rw [if_pos (.inr (by rw [h.received_eq]; exact hoffset)),
      continue_message_elsewhere hoffset, handed_on_none]
    exact reset_without_command h.toSized
  rw [if_neg (by rw [h.received_eq]; exact fun hbad => hbad.elim hopen (· hoffset))]
  simp only [int_add_eq_some (a := event.current_data_offset) (b := event.data_len)
    (by omega) (by omega), Option.bind_eq_bind, Option.bind_some]
  by_cases hover : message.total < message.received.length + event.bytes.length
  · -- the fragment is too long
    rw [if_pos (by rw [h.expected_eq]; omega), continue_message_over hover, handed_on_none]
    exact reset_without_command h.toSized
  obtain ⟨bytes, payload, hdata, hload, hstore, hsize, hfront⟩ :=
    store_bytes h hfragment hoffset (by omega)
  rw [if_neg (by rw [h.expected_eq]; omega)]
  simp only [hdata, hload, hstore, h.received_eq, Option.bind_some,
    int_add_eq_some (a := (message.received.length : ℤ)) (b := event.data_len)
      (by omega) (by omega)]
  by_cases hlt : message.received.length + event.bytes.length < message.total
  · -- bytes are still missing
    rw [if_pos (by rw [h.expected_eq]; omega), continue_message_open hoffset hlt, handed_on_none]
    refine ⟨_, rfl, ⟨h.topic_size, hsize⟩, h.topic_held, hfront, h.expected_eq, ?_⟩
    rw [incoming_t.extend, List.length_append, Nat.cast_add, hlength]
  -- the fragment completes the message
  rw [if_neg (by rw [h.expected_eq]; omega), continue_message_complete hoffset (by omega)]
  have hreceived : ((message.received.length : ℤ) + event.data_len).toNat
      = (message.received ++ event.bytes).length := by
    rw [List.length_append]
    omega
  have hroom : (message.received ++ event.bytes).length + 1 ≤ payload.length := by
    rw [hsize, List.length_append]
    exact (by omega : message.received.length + event.bytes.length + 1 ≤ 2048)
  obtain ⟨ended, hended, hended_size, hended_front⟩ := store_append hfront [0] hroom
  have hload_all := load_prefix ((List.prefix_append _ _).trans hended_front)
  have htopic := CString.before_chr_eq_some message.topic_text h.topic_held
  rw [hreceived]
  simp only [hended, hload_all, htopic, Option.bind_some]
  have hsized : Sized ⟨mqtt.s_incoming_topic, ended, mqtt.s_incoming_expected,
      message.received.length + event.data_len⟩ := ⟨h.topic_size, hended_size.trans hsize⟩
  obtain ⟨mqtt', hreset, hidle⟩ := reset_incoming_command_idle hsized
  refine ⟨mqtt', ?_, hidle⟩
  rw [hreset, handed_on]
  split_ifs
  · rfl
  · rfl

/-- **Beginning a message**: its topic is stored with a terminator behind it. -/
theorem store_topic {mqtt : app_mqtt_t} (h : Sized mqtt) {event : esp_mqtt_event_t}
    (hbegins : event.Begins) :
    ∃ bytes topic ended, event.topic = some bytes ∧
      load bytes 0 event.topic_len.toNat = some event.topic_bytes ∧
      store mqtt.s_incoming_topic 0 event.topic_bytes = some topic ∧
      store topic event.topic_len.toNat [0] = some ended ∧
      ended.length = APP_MQTT_COMMAND_TOPIC_SIZE ∧ event.topic_bytes ++ [0] <+: ended := by
  have hlength := topic_bytes_length hbegins
  obtain ⟨htopic, hpos, hlt, -⟩ := hbegins
  obtain ⟨bytes, hbytes⟩ := Option.ne_none_iff_exists'.mp htopic
  have hread := event.topic_readable bytes hbytes
  have hroom : event.topic_bytes.length + 1 ≤ mqtt.s_incoming_topic.length := by
    rw [h.topic_size]
    omega
  obtain ⟨topic, hstore, hsize, hfront⟩ := store_front event.topic_bytes
    (Nat.le_of_succ_le hroom)
  obtain ⟨ended, hended, hended_size, hended_front⟩ := store_append hfront [0]
    (by rw [hsize]; exact hroom)
  refine ⟨bytes, topic, ended, hbytes, ?_, hstore, ?_,
    hended_size.trans (hsize.trans h.topic_size), hended_front⟩
  · rw [load_eq_some (by omega), List.drop_zero, esp_mqtt_event_t.topic_bytes, hbytes,
      Option.getD_some]
  · rwa [← hlength, Int.toNat_natCast]

/-- **The source is the assembler**, event by event, and its behaviour is defined. -/
theorem handle_mqtt_data_assembles (s_command_handler : Bool) {mqtt : app_mqtt_t}
    {current : Option incoming_t} (h : Holds mqtt current) (event : Option esp_mqtt_event_t) :
    ∃ mqtt', handle_mqtt_data s_command_handler mqtt event
        = some (mqtt', handed_on s_command_handler (assemble current event).2) ∧
      Holds mqtt' (assemble current event).1 := by
  rcases event with - | event
  · rw [assemble, handed_on_none]
    exact reset_without_command h.sized
  rw [handle_mqtt_data, assemble, addressed]
  by_cases hfragment : event.IsFragment
  swap
  · rw [if_pos (not_not.mp (isFragment_iff.not.mp hfragment)), if_pos hfragment, handed_on_none]
    exact reset_without_command h.sized
  rw [if_neg (isFragment_iff.mp hfragment), if_neg (not_not.mpr hfragment)]
  by_cases hfirst : event.current_data_offset = 0
  swap
  · -- the fragment has to continue what is held
    rw [if_pos hfirst, if_neg hfirst]
    rcases current with - | message
    · obtain ⟨mqtt', hstored, hidle⟩ := store_fragment_idle s_command_handler h event
      exact ⟨mqtt', by rw [hstored, handed_on_none], hidle⟩
    · exact store_fragment_continues s_command_handler h hfragment
  -- a first fragment starts from nothing, whatever is held
  obtain ⟨empty, hreset, hidle⟩ := reset_incoming_command_idle h.sized
  rw [if_neg (not_not.mpr hfirst), if_pos hfirst, hreset, Option.bind_eq_bind, Option.bind_some,
    begin_message]
  by_cases hbegins : event.Begins
  swap
  · rw [if_pos (not_not.mp ((begins_iff hfragment).not.mp hbegins)), dif_neg hbegins,
      handed_on_none]
    exact ⟨empty, rfl, hidle⟩
  obtain ⟨bytes, topic, ended, htopic, hload, hstore, hended, hsize, hfront⟩ :=
    store_topic hidle.toSized hbegins
  rw [if_neg ((begins_iff hfragment).mp hbegins), dif_pos hbegins]
  simp only [htopic, hload, hstore, hended, Option.bind_eq_bind, Option.bind_some]
  apply store_fragment_continues s_command_handler _ hfragment
  have htotal := hfragment.2.2.1
  refine ⟨⟨hsize, hidle.payload_size⟩, hfront, List.nil_prefix, ?_, hidle.nothing_received⟩
  exact (Int.toNat_of_nonneg (Int.le_of_lt htotal)).symm

/-- The commands of a run, if somebody is there to take them. -/
def all_handed_on (s_command_handler : Bool) (commands : List mqtt_command_t) :
    List mqtt_command_t :=
  if s_command_handler = true then commands else []

theorem all_handed_on_append (s_command_handler : Bool) (command : Option mqtt_command_t)
    (commands : List mqtt_command_t) :
    (handed_on s_command_handler command).toList ++ all_handed_on s_command_handler commands
      = all_handed_on s_command_handler (command.toList ++ commands) := by
  unfold handed_on all_handed_on
  split_ifs
  · rfl
  · rfl

/-- **So is every run.** -/
theorem handle_mqtt_events_assembles (s_command_handler : Bool)
    (events : List (Option esp_mqtt_event_t)) {mqtt : app_mqtt_t} {current : Option incoming_t}
    (h : Holds mqtt current) :
    ∃ mqtt', handle_mqtt_events s_command_handler mqtt events
        = some (mqtt', all_handed_on s_command_handler
            (Machine.outputs assemble current events)) ∧
      Holds mqtt' (Machine.run assemble current events) := by
  induction events generalizing mqtt current with
  | nil => exact ⟨mqtt, by rw [Machine.outputs, all_handed_on, ite_self]; rfl, h⟩
  | cons event events ih =>
      obtain ⟨next, hstep, hnext⟩ := handle_mqtt_data_assembles s_command_handler h event
      obtain ⟨last, hrun, hlast⟩ := ih hnext
      refine ⟨last, ?_, hlast⟩
      rw [Machine.outputs, ← all_handed_on_append]
      simp only [handle_mqtt_events, hstep, hrun, Option.bind_eq_bind, Option.bind_some]
      rfl

/-! ## What is delivered -/

/-- Fragments that follow each other without a gap, from an offset on. -/
def Contiguous : ℤ → List esp_mqtt_event_t → Prop
  | _, [] => True
  | offset, event :: events =>
      event.IsFragment ∧ event.current_data_offset = offset ∧
        Contiguous (offset + event.data_len) events

/-- The bytes of fragments. -/
def payload_of (fragments : List esp_mqtt_event_t) : List UInt8 :=
  fragments.flatMap esp_mqtt_event_t.bytes

theorem contiguous_append (offset : ℤ) (fragments : List esp_mqtt_event_t)
    (event : esp_mqtt_event_t) :
    Contiguous offset (fragments ++ [event]) ↔
      Contiguous offset fragments ∧ event.IsFragment ∧
        event.current_data_offset = offset + (fragments.map (·.data_len)).sum := by
  induction fragments generalizing offset with
  | nil => simp [Contiguous]
  | cons first fragments ih =>
      rw [List.cons_append, Contiguous, Contiguous, ih, List.map_cons, List.sum_cons,
        ← add_assoc]
      tauto

/-- The bytes of contiguous fragments are as many as their lengths say. -/
theorem payload_of_length {offset : ℤ} {fragments : List esp_mqtt_event_t}
    (h : Contiguous offset fragments) :
    ((payload_of fragments).length : ℤ) = (fragments.map (·.data_len)).sum := by
  induction fragments generalizing offset with
  | nil => rfl
  | cons first fragments ih =>
      obtain ⟨hfragment, -, hrest⟩ := h
      rw [payload_of, List.flatMap_cons, List.length_append, Nat.cast_add,
        bytes_length hfragment, List.map_cons, List.sum_cons]
      exact congrArg _ (ih hrest)

/-- What has happened is that a first fragment came, and after it only fragments that
continue it. -/
structure Since (past : List (Option esp_mqtt_event_t)) (first : esp_mqtt_event_t)
    (rest : List esp_mqtt_event_t) : Prop where
  recent : ∃ before, past = before ++ (first :: rest).map some
  first_offset : first.current_data_offset = 0
  rest_offset : ∀ event ∈ rest, event.current_data_offset ≠ 0
  begins : first.Begins
  contiguous : Contiguous 0 (first :: rest)

/-- A message under way was collected from the last events. -/
def Collected (past : List (Option esp_mqtt_event_t)) (message : incoming_t) : Prop :=
  ∃ first rest, Since past first rest ∧ message.topic = first.topic_bytes ∧
    (message.total : ℤ) = first.total_data_len ∧
    message.received = payload_of (first :: rest)

/-- The fragment that a message goes on with, and what came before it. -/
theorem since_addressed {past : List (Option esp_mqtt_event_t)} {current : Option incoming_t}
    (h : ∀ message ∈ current, Collected past message) {fragment : esp_mqtt_event_t}
    (hfragment : fragment.IsFragment) {message : incoming_t}
    (hmessage : addressed current fragment = some message)
    (hoffset : fragment.current_data_offset = message.received.length) :
    ∃ first rest, Since (past ++ [some fragment]) first rest ∧
      message.topic = first.topic_bytes ∧ (message.total : ℤ) = first.total_data_len ∧
      message.received ++ fragment.bytes = payload_of (first :: rest) := by
  rw [addressed] at hmessage
  split_ifs at hmessage with hfirst
  · -- the message begins here
    rw [begin_message] at hmessage
    split_ifs at hmessage with hbegins
    obtain rfl := Option.some.inj hmessage
    refine ⟨fragment, [], ⟨⟨past, rfl⟩, hfirst, ?_, hbegins, ⟨hfragment, hfirst, trivial⟩⟩,
      rfl, ?_, ?_⟩
    · exact fun event hevent => absurd hevent List.not_mem_nil
    · exact Int.toNat_of_nonneg (Int.le_of_lt hfragment.2.2.1)
    · rw [payload_of, List.flatMap_cons, List.flatMap_nil, List.append_nil, List.nil_append]
  · obtain ⟨first, rest, hsince, htopic, htotal, hreceived⟩ := h message hmessage
    obtain ⟨before, hbefore⟩ := hsince.recent
    refine ⟨first, rest ++ [fragment], ⟨⟨before, ?_⟩, hsince.first_offset, ?_, hsince.begins, ?_⟩,
      htopic, htotal, ?_⟩
    · rw [hbefore, ← List.cons_append, List.map_append, List.append_assoc]
      rfl
    · intro event hevent
      rcases List.mem_append.mp hevent with hold | hnew
      · exact hsince.rest_offset event hold
      · rwa [List.mem_singleton.mp hnew]
    · rw [← List.cons_append, contiguous_append]
      refine ⟨hsince.contiguous, hfragment, ?_⟩
      rw [zero_add, ← payload_of_length hsince.contiguous, ← hreceived, hoffset]
    · rw [hreceived, payload_of, payload_of, ← List.cons_append, List.flatMap_append,
        List.flatMap_singleton]

/-- **The step lemma**: what is under way behind an event was collected. -/
theorem assemble_collected {past : List (Option esp_mqtt_event_t)} {current : Option incoming_t}
    (h : ∀ message ∈ current, Collected past message) (event : Option esp_mqtt_event_t) :
    ∀ message ∈ (assemble current event).1, Collected (past ++ [event]) message := by
  rcases assemble_cases current event with
    ⟨fragment, message, rfl, hfragment, hmessage, hoffset, ⟨hopen, hstep⟩ | ⟨-, hstep⟩⟩ | hstep
  · rw [hstep]
    intro next hnext
    obtain rfl := Option.some.inj hnext
    exact since_addressed h hfragment hmessage hoffset
  · rw [hstep]
    exact fun message hnone => absurd hnone (Option.not_mem_none _)
  · rw [hstep]
    exact fun message hnone => absurd hnone (Option.not_mem_none _)

/-- **The run lemma.** -/
theorem run_collected (events : List (Option esp_mqtt_event_t)) :
    ∀ message ∈ Machine.run assemble none events, Collected events message := by
  induction events using List.reverseRecOn with
  | nil => exact fun message hnone => absurd hnone (Option.not_mem_none _)
  | append_singleton events event ih =>
      rw [Machine.run_append, Machine.run_cons, Machine.run_nil]
      exact assemble_collected ih event

/-- **What is handed on is a complete message**, made of the last events. -/
theorem command_complete {events : List (Option esp_mqtt_event_t)}
    {event : Option esp_mqtt_event_t} {command : mqtt_command_t}
    (h : (assemble (Machine.run assemble none events) event).2 = some command) :
    ∃ first rest, Since (events ++ [event]) first rest ∧
      ((first :: rest).map (·.data_len)).sum = first.total_data_len ∧
      command = ⟨first.topic_bytes, payload_of (first :: rest)⟩ := by
  rcases assemble_cases (Machine.run assemble none events) event with
    ⟨fragment, message, rfl, hfragment, hmessage, hoffset, ⟨hopen, hstep⟩ | ⟨hfull, hstep⟩⟩ |
    hstep
  · rw [hstep] at h
    exact absurd h (Option.some_ne_none _).symm
  · rw [hstep] at h
    obtain rfl := Option.some.inj h
    obtain ⟨first, rest, hsince, htopic, htotal, hpayload⟩ :=
      since_addressed (run_collected events) hfragment hmessage hoffset
    refine ⟨first, rest, hsince, ?_, by rw [htopic, hpayload]⟩
    rw [← payload_of_length hsince.contiguous, ← hpayload, List.length_append, hfull, htotal]
  · rw [hstep] at h
    exact absurd h (Option.some_ne_none _).symm

/-! ## What arrives in order -/

/-- A message within the limits, and fragments that carry it: none is empty, they follow
each other without a gap, and each announces the length of the message. -/
structure InOrder (message : mqtt_command_t) (fragments : List esp_mqtt_event_t) : Prop where
  topic_length : 1 ≤ message.topic.length ∧ message.topic.length ≤ 127
  payload_length : 1 ≤ message.payload.length ∧ message.payload.length ≤ 2047
  topic_eq : ∀ first ∈ fragments.head?, first.topic_bytes = message.topic
  payload_eq : payload_of fragments = message.payload
  total : ∀ event ∈ fragments, event.total_data_len = message.payload.length
  nonempty : ∀ event ∈ fragments, 0 < event.data_len
  contiguous : Contiguous 0 fragments

/-- Two fragments of one byte each. The second one has no topic. -/
example :
    InOrder ⟨[0x74], [0x7B, 0x7D]⟩
      [⟨some [0x74], 1, some [0x7B], 1, 2, 0, by simp, by simp, by simp, by decide⟩,
        ⟨none, 0, some [0x7D], 1, 2, 1, by simp, by simp, by simp, by decide⟩] where
  topic_length := by decide
  payload_length := by decide
  topic_eq := by simp [esp_mqtt_event_t.topic_bytes]
  payload_eq := by decide
  total := by simp
  nonempty := by simp
  contiguous := by simp [Contiguous, esp_mqtt_event_t.IsFragment]

theorem begins_of_topic {event : esp_mqtt_event_t} (hpos : 1 ≤ event.topic_bytes.length)
    (hlt : event.topic_bytes.length < APP_MQTT_COMMAND_TOPIC_SIZE)
    (htotal : 0 < event.total_data_len)
    (htotal_lt : event.total_data_len < APP_MQTT_COMMAND_PAYLOAD_SIZE) : event.Begins := by
  rw [esp_mqtt_event_t.topic_bytes] at hpos hlt
  cases htopic : event.topic with
  | none => simp [htopic] at hpos
  | some bytes =>
      have hread := event.topic_readable bytes htopic
      rw [htopic, Option.getD_some, List.length_take] at hpos hlt
      exact ⟨by rw [htopic]; exact Option.some_ne_none _, by omega, by omega, htotal, htotal_lt⟩

/-- **Fragments that complete a message.** The induction is on the fragments that follow the
one at hand; what has been received before is arbitrary. -/
theorem outputs_fragments (rest : List esp_mqtt_event_t) {current : Option incoming_t}
    {fragment : esp_mqtt_event_t} {message : incoming_t}
    (hmessage : addressed current fragment = some message)
    (hcontiguous : Contiguous message.received.length (fragment :: rest))
    (hnonempty : ∀ event ∈ fragment :: rest, 0 < event.data_len)
    (htotal : message.received.length + (payload_of (fragment :: rest)).length = message.total) :
    Machine.outputs assemble current ((fragment :: rest).map some)
        = [⟨message.topic, message.received ++ payload_of (fragment :: rest)⟩] ∧
      Machine.run assemble current ((fragment :: rest).map some) = none := by
  induction rest generalizing current fragment message with
  | nil =>
      obtain ⟨hfragment, hoffset, -⟩ := hcontiguous
      rw [payload_of, List.flatMap_cons, List.flatMap_nil, List.append_nil] at htotal ⊢
      have hstep : assemble current (some fragment)
          = (none, some ⟨message.topic, message.received ++ fragment.bytes⟩) := by
        rw [assemble, if_neg (not_not.mpr hfragment), hmessage]
        exact continue_message_complete hoffset htotal
      rw [List.map_cons, Machine.outputs, Machine.run_cons, hstep]
      exact ⟨rfl, rfl⟩
  | cons next rest ih =>
      obtain ⟨hfragment, hoffset, hrest⟩ := hcontiguous
      have hlength := bytes_length hfragment
      have hpositive := hnonempty fragment List.mem_cons_self
      have hnext_positive := hnonempty next (List.mem_cons_of_mem _ List.mem_cons_self)
      have hnext_length := bytes_length hrest.1
      have hnext_offset := hrest.2.1
      have hsplit : payload_of (fragment :: next :: rest)
          = fragment.bytes ++ payload_of (next :: rest) := List.flatMap_cons
      have hlong : next.bytes.length ≤ (payload_of (next :: rest)).length := by
        rw [payload_of, List.flatMap_cons, List.length_append]
        omega
      rw [hsplit, List.length_append] at htotal
      -- the next fragment is not empty, so the message is not complete yet
      have hopen : message.received.length + fragment.bytes.length < message.total := by omega
      have hstep : assemble current (some fragment)
          = (some (message.extend fragment.bytes hopen), none) := by
        rw [assemble, if_neg (not_not.mpr hfragment), hmessage]
        exact continue_message_open hoffset hopen
      have hreceived : (message.extend fragment.bytes hopen).received
          = message.received ++ fragment.bytes := rfl
      have hgone : ((message.extend fragment.bytes hopen).received.length : ℤ)
          = message.received.length + fragment.data_len := by
        rw [hreceived, List.length_append, Nat.cast_add, hlength]
      have hnext : addressed (some (message.extend fragment.bytes hopen)) next
          = some (message.extend fragment.bytes hopen) := if_neg (by omega)
      obtain ⟨hcommands, hlast⟩ := ih hnext (by rw [hgone]; exact hrest)
        (fun event hevent => hnonempty event (List.mem_cons_of_mem _ hevent))
        (by
          rw [hreceived, List.length_append, Nat.add_assoc]
          exact htotal)
      rw [List.map_cons, Machine.outputs, Machine.run_cons, hstep]
      refine ⟨?_, hlast⟩
      rw [hcommands, hsplit, hreceived, List.append_assoc]
      rfl

/-- **A message in order is handed on**, whatever has been received before, and nothing of
it stays. -/
theorem outputs_in_order {message : mqtt_command_t} {fragments : List esp_mqtt_event_t}
    (h : InOrder message fragments) (current : Option incoming_t) :
    Machine.outputs assemble current (fragments.map some) = [message] ∧
      Machine.run assemble current (fragments.map some) = none := by
  obtain ⟨htopic_pos, htopic_le⟩ := h.topic_length
  obtain ⟨hpayload_pos, hpayload_le⟩ := h.payload_length
  rcases fragments with - | ⟨first, rest⟩
  · have hempty := h.payload_eq
    rw [← hempty] at hpayload_pos
    exact absurd hpayload_pos (by decide)
  have htopic := h.topic_eq first rfl
  have htotal := h.total first List.mem_cons_self
  obtain ⟨hfragment, hoffset, hrest⟩ := h.contiguous
  have hbegins : first.Begins := by
    apply begins_of_topic
    · rwa [htopic]
    · rw [htopic]
      exact Nat.lt_succ_of_le htopic_le
    · omega
    · rw [htotal]
      exact Int.ofNat_lt.mpr (Nat.lt_succ_of_le hpayload_le)
  obtain ⟨begun, hbegun, hbegun_topic, hbegun_total, hbegun_received⟩ :=
    begin_message_begins hbegins
  have hmessage : addressed current first = some begun := (if_pos hoffset).trans hbegun
  obtain ⟨hcommands, hlast⟩ := outputs_fragments rest hmessage
    (by rw [hbegun_received]; exact h.contiguous) h.nonempty
    (by
      rw [h.payload_eq, hbegun_received, List.length_nil]
      omega)
  refine ⟨?_, hlast⟩
  rw [hcommands, h.payload_eq, hbegun_received, hbegun_topic, htopic, List.nil_append]

/-! ## Results -/

/-- The source keeps a fragment: it begins a message that fits, or it continues the message
under way at the place where that stands. -/
def Accepted (mqtt : app_mqtt_t) (event : esp_mqtt_event_t) : Prop :=
  event.IsFragment ∧
    if event.current_data_offset = 0 then
      event.Begins ∧ event.data_len ≤ event.total_data_len
    else
      mqtt.s_incoming_expected ≠ 0 ∧
        event.current_data_offset = mqtt.s_incoming_received ∧
        event.current_data_offset + event.data_len ≤ mqtt.s_incoming_expected

theorem Holds.bounds {mqtt : app_mqtt_t} {current : Option incoming_t} (h : Holds mqtt current) :
    0 ≤ mqtt.s_incoming_received ∧ mqtt.s_incoming_received ≤ mqtt.s_incoming_expected ∧
      mqtt.s_incoming_expected ≤ 2047 := by
  cases current with
  | none =>
      have hreceived := Idle.nothing_received h
      have hexpected := Idle.nothing_expected h
      omega
  | some message =>
      have hreceived := Holding.received_eq h
      have hexpected := Holding.expected_eq h
      have hmissing := message.missing
      have htotal : message.total < 2048 := message.total_lt
      omega

/-- A fragment that the assembler goes on with is one that the source accepts. -/
theorem accepted_of_addressed {mqtt : app_mqtt_t} {current : Option incoming_t}
    (h : Holds mqtt current) {event : esp_mqtt_event_t} (hfragment : event.IsFragment)
    {message : incoming_t} (hmessage : addressed current event = some message)
    (hoffset : event.current_data_offset = message.received.length)
    (hfits : message.received.length + event.bytes.length ≤ message.total) :
    Accepted mqtt event := by
  have hlength := bytes_length hfragment
  refine ⟨hfragment, ?_⟩
  rw [addressed] at hmessage
  split_ifs at hmessage ⊢ with hfirst
  · rw [begin_message] at hmessage
    split_ifs at hmessage with hbegins
    obtain ⟨begun, hbegun, -, htotal, -⟩ := begin_message_begins hbegins
    rw [begin_message, dif_pos hbegins] at hbegun
    obtain rfl := Option.some.inj (hmessage.symm.trans hbegun)
    exact ⟨hbegins, by omega⟩
  · subst hmessage
    have hreceived := Holding.received_eq h
    have hexpected := Holding.expected_eq h
    have hmissing := message.missing
    exact ⟨by omega, by omega, by omega⟩

/-- Two states that hold the same lead to the same commands. -/
theorem handle_mqtt_events_congr (s_command_handler : Bool) {left right : app_mqtt_t}
    {current : Option incoming_t} (hleft : Holds left current) (hright : Holds right current)
    (events : List (Option esp_mqtt_event_t)) :
    (handle_mqtt_events s_command_handler left events).map (·.2)
      = (handle_mqtt_events s_command_handler right events).map (·.2) := by
  obtain ⟨_, hrun_left, -⟩ := handle_mqtt_events_assembles s_command_handler events hleft
  obtain ⟨_, hrun_right, -⟩ := handle_mqtt_events_assembles s_command_handler events hright
  rw [hrun_left, hrun_right]
  rfl

/-- **One event of a run**: either the message stays under way, with the fragment taken and
no command, or nothing of it is kept. -/
theorem handle_mqtt_data_keeps (s_command_handler : Bool) {mqtt : app_mqtt_t}
    {current : Option incoming_t} (h : Holds mqtt current) (event : Option esp_mqtt_event_t)
    {mqtt' : app_mqtt_t} {command : Option mqtt_command_t}
    (hstep : handle_mqtt_data s_command_handler mqtt event = some (mqtt', command)) :
    (command = none ∧ ∃ fragment, event = some fragment ∧ Accepted mqtt fragment ∧
        mqtt'.s_incoming_received = fragment.current_data_offset + fragment.data_len ∧
        mqtt'.s_incoming_received < mqtt'.s_incoming_expected) ∨
      (Idle mqtt' ∧ ∀ after,
        (handle_mqtt_events s_command_handler mqtt' after).map (·.2)
          = (handle_mqtt_events s_command_handler {} after).map (·.2)) := by
  obtain ⟨next, hnext, hholds⟩ := handle_mqtt_data_assembles s_command_handler h event
  obtain ⟨rfl, rfl⟩ := Prod.mk.inj (Option.some.inj (hstep.symm.trans hnext))
  rcases assemble_cases current event with
    ⟨fragment, message, rfl, hfragment, hmessage, hoffset, ⟨hopen, hcase⟩ | ⟨-, hcase⟩⟩ | hcase
  · rw [hcase] at hholds ⊢
    have hreceived := Holding.received_eq hholds
    have hexpected := Holding.expected_eq hholds
    rw [incoming_t.extend, List.length_append, Nat.cast_add, bytes_length hfragment] at hreceived
    have hlength := bytes_length hfragment
    refine .inl ⟨handed_on_none _, fragment, rfl, ?_, ?_, ?_⟩
    · exact accepted_of_addressed h hfragment hmessage hoffset (Nat.le_of_lt hopen)
    · rw [hreceived, hoffset]
    · rw [hreceived, hexpected]
      show _ < (message.total : ℤ)
      omega
  · rw [hcase] at hholds
    exact .inr ⟨hholds, handle_mqtt_events_congr _ hholds holds_init⟩
  · rw [hcase] at hholds
    exact .inr ⟨hholds, handle_mqtt_events_congr _ hholds holds_init⟩

/-- A message in order is handed on between what comes before it and what comes after it,
and changes neither. -/
theorem handle_mqtt_events_in_order (s_command_handler : Bool) {message : mqtt_command_t}
    {fragments : List esp_mqtt_event_t} (h : InOrder message fragments)
    (before after : List (Option esp_mqtt_event_t)) {mqtt : app_mqtt_t}
    {commands : List mqtt_command_t}
    (hbefore : handle_mqtt_events s_command_handler {} before = some (mqtt, commands)) :
    ∃ later mqtt' last, handle_mqtt_events s_command_handler {} after = some (mqtt', later) ∧
      handle_mqtt_events s_command_handler {} (before ++ fragments.map some ++ after)
        = some (last, commands ++ all_handed_on s_command_handler [message] ++ later) := by
  obtain ⟨_, hrun_before, -⟩ :=
    handle_mqtt_events_assembles s_command_handler before holds_init
  obtain ⟨mqtt', hrun_after, -⟩ :=
    handle_mqtt_events_assembles s_command_handler after holds_init
  obtain ⟨last, hrun, -⟩ := handle_mqtt_events_assembles s_command_handler
    (before ++ fragments.map some ++ after) holds_init
  obtain ⟨hcommands, hlast⟩ := outputs_in_order h (Machine.run assemble none before)
  refine ⟨_, mqtt', last, hrun_after, ?_⟩
  rw [hrun_before] at hbefore
  obtain ⟨-, rfl⟩ := Prod.mk.inj (Option.some.inj hbefore)
  rw [hrun, Machine.outputs_append, Machine.outputs_append, hcommands, Machine.run_append, hlast]
  unfold all_handed_on
  split_ifs
  · rfl
  · rfl

/-- **Commands that arrive in fragments.** Whatever the events: no access leaves a buffer
and no sum the range of `int`; what the handler is called with is a complete message made
of the last fragments; an event that is not taken leaves nothing behind; and a message that
arrives in order is handed on once. -/
theorem mqtt_command_reassembly (s_command_handler : Bool)
    (events : List (Option esp_mqtt_event_t)) :
    ∃ mqtt commands, handle_mqtt_events s_command_handler {} events = some (mqtt, commands) ∧
      (0 ≤ mqtt.s_incoming_received ∧ mqtt.s_incoming_received ≤ mqtt.s_incoming_expected ∧
        mqtt.s_incoming_expected ≤ 2047) ∧
      Sized mqtt ∧
      (∀ event, ∃ mqtt' command,
        handle_mqtt_data s_command_handler mqtt event = some (mqtt', command) ∧
        (∀ called, command = some called →
          ∃ first rest, Since (events ++ [event]) first rest ∧
            ((first :: rest).map (·.data_len)).sum = first.total_data_len ∧
            1 ≤ first.total_data_len ∧ first.total_data_len ≤ 2047 ∧
            1 ≤ called.topic.length ∧ called.topic.length ≤ 127 ∧
            called = ⟨first.topic_bytes, payload_of (first :: rest)⟩) ∧
        ((command = none ∧ ∃ fragment, event = some fragment ∧ Accepted mqtt fragment ∧
            mqtt'.s_incoming_received = fragment.current_data_offset + fragment.data_len ∧
            mqtt'.s_incoming_received < mqtt'.s_incoming_expected) ∨
          (Idle mqtt' ∧ ∀ after,
            (handle_mqtt_events s_command_handler mqtt' after).map (·.2)
              = (handle_mqtt_events s_command_handler {} after).map (·.2)))) ∧
      ∀ message fragments after, InOrder message fragments →
        ∃ later mqtt' last,
          handle_mqtt_events s_command_handler {} after = some (mqtt', later) ∧
          handle_mqtt_events s_command_handler {} (events ++ fragments.map some ++ after)
            = some (last, commands ++ all_handed_on s_command_handler [message] ++ later) := by
  obtain ⟨mqtt, hrun, hholds⟩ :=
    handle_mqtt_events_assembles s_command_handler events holds_init
  refine ⟨mqtt, _, hrun, hholds.bounds, hholds.sized, fun event => ?_,
    fun message fragments after h => handle_mqtt_events_in_order s_command_handler h events after
      hrun⟩
  obtain ⟨mqtt', hstep, -⟩ := handle_mqtt_data_assembles s_command_handler hholds event
  refine ⟨mqtt', _, hstep, fun called hcalled => ?_,
    handle_mqtt_data_keeps s_command_handler hholds event hstep⟩
  have hcommand : (assemble (Machine.run assemble none events) event).2 = some called := by
    rw [handed_on] at hcalled
    split_ifs at hcalled
    exact hcalled
  obtain ⟨first, rest, hsince, htotal, rfl⟩ := command_complete hcommand
  obtain ⟨-, hpos, hlt, htotal_pos, htotal_lt⟩ := hsince.begins
  have hlength := topic_bytes_length hsince.begins
  have htopic_le : first.topic_len < 128 := hlt
  have htotal_le : first.total_data_len < 2048 := htotal_lt
  exact ⟨first, rest, hsince, htotal, by omega, by omega, by dsimp only; omega,
    by dsimp only; omega, rfl⟩

end WifiManager.AppMqtt
