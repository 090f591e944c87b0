import NotificationTap.CommandLine.Run
import NotificationTap.Proofs.Except
import NotificationTap.Proofs.Loading

/-!
# Where a payload is read from

* `payloadFile?_of_dash`, `payloadFile?_of_file`: `-` stands for the standard input, and any other
  path for a file.
* `payloadBytes`: the bytes of a payload, from its file or from the standard input.
  `payloadBytes_of_dash`, `payloadBytes_of_file`: those of either source.
* `readPayload_eq_bytes`: a payload is read from these bytes, wherever they are from.
* `readPayload_eq_ok`: it is read if they are the text of a JSON object.
* `readPayload_eq_error`: what is said if they are not.
-/

namespace NotificationTap.CommandLine

/-- The bytes that a payload is read from: those of its file, or the standard input. -/
def payloadBytes (disk : Disk) (stdin : ByteArray) : Option FilePath → Except DiskError ByteArray
  | none => .ok stdin
  | some path => if path.isDash then .ok stdin else disk.readBytes path

variable {disk : Disk} {stdin bytes : ByteArray} {path : FilePath} {path? : Option FilePath}

theorem payloadFile?_of_dash (hdash : ∀ path ∈ path?, path.isDash = true) :
    payloadFile? path? = none := by
  rw [payloadFile?, Option.filter_eq_none_iff]
  intro path hpath
  simp [hdash path hpath]

theorem payloadFile?_of_file (hdash : path.isDash = false) :
    payloadFile? (some path) = some path := by
  simp [payloadFile?, hdash]

theorem payloadBytes_of_dash (hdash : ∀ path ∈ path?, path.isDash = true) (disk : Disk)
    (stdin : ByteArray) : payloadBytes disk stdin path? = .ok stdin := by
  cases path? with
  | none => rfl
  | some path => exact if_pos (hdash path rfl)

theorem payloadBytes_of_file (hdash : path.isDash = false)
    (hfile : disk.status path = .ok (.file bytes)) (stdin : ByteArray) :
    payloadBytes disk stdin (some path) = .ok bytes := by
  simp [payloadBytes, hdash, Disk.readBytes, hfile]

/-- A payload is read from its bytes, wherever they are from. An error names its file. -/
theorem readPayload_eq_bytes (disk : Disk) (stdin : ByteArray) (path? : Option FilePath) :
    readPayload disk stdin path? =
      (((payloadBytes disk stdin path?).bind Disk.decodeText).mapError
        (.payload (payloadFile? path?))).bind parsePayload := by
  cases path? with
  | none => rfl
  | some path =>
    cases hdash : path.isDash with
    | true =>
      have hpath : ∀ other ∈ some path, other.isDash = true := by simpa using hdash
      rw [readPayload, payloadFile?_of_dash hpath, payloadBytes_of_dash hpath]
      rfl
    | false =>
      have hbytes : payloadBytes disk stdin (some path) = disk.readBytes path := by
        simp [payloadBytes, hdash]
      rw [readPayload, payloadFile?_of_file hdash, hbytes]
      dsimp only [Disk.readText]
      cases disk.readBytes path <;> rfl

/-- A payload is read from bytes that are the text of a JSON object. -/
theorem readPayload_eq_ok {payload : Payload} : readPayload disk stdin path? = .ok payload ↔
    ∃ text, payloadBytes disk stdin path? = .ok text.toUTF8 ∧ Payload.parse text = .ok payload := by
  simp [readPayload_eq_bytes, parsePayload, Disk.decodeText_eq_ok]

/-- Where no payload is read, its bytes are not there or no text, or the text is no JSON object. -/
theorem readPayload_eq_error {error : RunError} : readPayload disk stdin path? = .error error ↔
    (∃ e, (payloadBytes disk stdin path?).bind Disk.decodeText = .error e ∧
      .payload (payloadFile? path?) e = error) ∨
    ∃ text, payloadBytes disk stdin path? = .ok text.toUTF8 ∧
      ∃ e, Payload.parse text = .error e ∧ .malformedPayload e = error := by
  rw [readPayload_eq_bytes, Except.bind_eq_error, Except.mapError_eq_error]
  simp [parsePayload, Disk.decodeText_eq_ok]

end NotificationTap.CommandLine
