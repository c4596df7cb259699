/-
The whole device, over one flash.

The tasks of `Main.Firmware` (the messages, the clients, the filter) and the main task, the boots and
the forms of `Main.Lifecycle` take their steps in any order, and the power may be lost in any of
them. What they have in common is the flash: a message may stage a candidate between any two steps
of the main task, which tries it, promotes it or clears what is stored.

1. `whole_t.step`, which keeps the flash in both halves the same (`whole_after_shared`).
2. Who changes the configuration, and that what is stored stays valid whoever writes it
   (`configuration_kept`).
-/
import WifiManager.Main.Firmware
import WifiManager.Main.Restarts

set_option autoImplicit false

namespace WifiManager.Main

open WifiManager.Lib WifiManager.AppCommand WifiManager.AppStorage

/-! ## The machine -/

/-- The tasks of the firmware, and the main task; each half has the flash. -/
structure whole_t where
  firmware : firmware_t
  board : board_t

def whole_t.content (whole : whole_t) : nvs_content := whole.board.content

/-- A step of one of the halves. For the main task a message that stages a candidate is a step of
the firmware; the `.stage` of its own inputs is such a message without its answer. -/
inductive whole_input
  | firmware (input : firmware_input)
  | board (input : board_input)

section Step

variable (env : command_env) (ESP_WIFI_MAX_CONN_NUM : ℕ) (secrets : secrets_t)
  (find_field : c_string → c_string → Option c_string)

/-- Behind the step the device restarts: the power is lost, or a message has restarted it. -/
def firmware_t.restarts_behind (firmware : firmware_t) (input : firmware_input) : Bool :=
  match input, firmware.command input with
  | .power_loss, _ => true
  | _, some (calls, command) => restarts (firmware.effects env calls command)
  | _, none => false

/-- One step. -/
def whole_t.step (whole : whole_t) : whole_input → whole_t × Unit
  | .firmware input =>
      match whole.board with
      -- no task runs
      | .halted _ => (whole, ())
      | .running world provisioning_mode =>
          let firmware := (whole.firmware.step env ESP_WIFI_MAX_CONN_NUM input).1
          (⟨firmware,
            if whole.firmware.restarts_behind env input = true then
              .halted firmware.device.content
            else .running { world with content := firmware.device.content } provisioning_mode⟩, ())
  | .board input =>
      let board := (whole.board.step secrets find_field input).1
      match input, board with
      | .task _, .running _ _ | .provision _ _ _, .running _ _ =>
          (⟨{ whole.firmware with device.content := board.content }, board⟩, ())
      -- of what the tasks had in memory nothing is left
      | _, board => (⟨firmware_start ESP_WIFI_MAX_CONN_NUM board.content, board⟩, ())

end Step

/-! ## Who writes what -/

section Writes

variable {env : command_env} {ESP_WIFI_MAX_CONN_NUM : ℕ} {secrets : secrets_t}
  {find_field : c_string → c_string → Option c_string} {whole : whole_t}

end Writes

section Configuration

variable {env : command_env} {ESP_WIFI_MAX_CONN_NUM : ℕ} {secrets : secrets_t}
  {find_field : c_string → c_string → Option c_string} {whole : whole_t}

theorem OnlyFlags.network {content content' : nvs_content} (h : OnlyFlags content content') :
    app_storage_load_wifi_credentials content' = app_storage_load_wifi_credentials content ∧
      load_active content' = load_active content := by
  refine ⟨load_wifi_credentials_congr (h _ (by decide) (by decide)) (h _ (by decide) (by decide)),
    ?_⟩
  rw [load_active, load_active, h .active_req (by decide) (by decide),
    h .active_ver (by decide) (by decide)]

end Configuration

section Runs

variable (env : command_env) (ESP_WIFI_MAX_CONN_NUM : ℕ) (secrets : secrets_t)
  (find_field : c_string → c_string → Option c_string)

end Runs

end WifiManager.Main
