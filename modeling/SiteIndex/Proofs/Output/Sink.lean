import SiteIndex.Output.Sink

/-!
Sinks that take whatever is written to them, and those of them that keep it.
-/

namespace SiteIndex

namespace Sink

variable {ε σ : Type}

/-- What every write keeps holds however much is written. -/
theorem holds_throughout {sink : Sink ε σ} {I : σ → Prop}
    (step : ∀ out bytes, I out → I (sink.write bytes out).2) {out : σ} (start : I out)
    (before : List ByteArray) : I (before.foldl (fun out bytes => (sink.write bytes out).2) out) := by
  induction before generalizing out with
  | nil => exact start
  | cons bytes rest ih => exact ih (step out bytes start)

/-- From `out` on no write fails, however many have come before it. -/
def Accepts (sink : Sink ε σ) (out : σ) : Prop :=
  ∀ (before : List ByteArray) (bytes : ByteArray),
    (sink.write bytes (before.foldl (fun out bytes => (sink.write bytes out).2) out)).1 = .ok ()

theorem Accepts.write {sink : Sink ε σ} {out : σ} (accepts : sink.Accepts out)
    (bytes : ByteArray) :
    ∃ later, sink.write bytes out = (.ok (), later) ∧ sink.Accepts later := by
  refine ⟨(sink.write bytes out).2, ?_, fun before => accepts (bytes :: before)⟩
  exact Prod.ext (accepts [] bytes) rfl

/-- From `out` on every write succeeds and is kept, behind what has been written before. -/
def Collects (sink : Sink ε σ) (written : σ → ByteArray) (out : σ) : Prop :=
  ∀ (before : List ByteArray) (bytes : ByteArray),
    let reached := before.foldl (fun out bytes => (sink.write bytes out).2) out
    (sink.write bytes reached).1 = .ok () ∧
      written (sink.write bytes reached).2 = written reached ++ bytes

theorem Collects.write {sink : Sink ε σ} {written : σ → ByteArray} {out : σ}
    (collects : sink.Collects written out) (bytes : ByteArray) :
    ∃ later, sink.write bytes out = (.ok (), later) ∧ written later = written out ++ bytes ∧
      sink.Collects written later := by
  obtain ⟨taken, kept⟩ := collects [] bytes
  exact ⟨(sink.write bytes out).2, Prod.ext taken rfl, kept,
    fun before => collects (bytes :: before)⟩

/-- From `out` on, whatever is written, the file at `location` can be read, and `P` holds of what
is in it. -/
def Shows (sink : Sink ε σ) (location : Location) (P : ByteArray → Prop) (out : σ) : Prop :=
  ∀ before : List ByteArray,
    let reached := before.foldl (fun out bytes => (sink.write bytes out).2) out
    ∃ content, (sink.files reached).content location = .ok content ∧ P content

theorem Shows.now {sink : Sink ε σ} {location : Location} {P : ByteArray → Prop} {out : σ}
    (shows : sink.Shows location P out) :
    ∃ content, (sink.files out).content location = .ok content ∧ P content :=
  shows []

theorem Shows.write {sink : Sink ε σ} {location : Location} {P : ByteArray → Prop} {out : σ}
    (shows : sink.Shows location P out) (bytes : ByteArray) :
    sink.Shows location P (sink.write bytes out).2 :=
  fun before => shows (bytes :: before)

/-- From `out` on the file at `location` can be read, and whatever is written adds to its end at
the most. -/
def Grows (sink : Sink ε σ) (location : Location) (out : σ) : Prop :=
  ∀ (before : List ByteArray) (bytes : ByteArray),
    let reached := before.foldl (fun out bytes => (sink.write bytes out).2) out
    ∃ now later, (sink.files reached).content location = .ok now ∧
      (sink.files (sink.write bytes reached).2).content location = .ok later ∧
      now.data.toList <+: later.data.toList

theorem Grows.write {sink : Sink ε σ} {location : Location} {out : σ}
    (grows : sink.Grows location out) (bytes : ByteArray) :
    sink.Grows location (sink.write bytes out).2 :=
  fun before => grows (bytes :: before)

end Sink

/-- A tray without a limit keeps everything. -/
theorem Tray.collects (tray : Tray) (roomy : tray.room = none) :
    Tray.sink.Collects Tray.held tray := by
  intro before
  induction before generalizing tray with
  | nil =>
      intro bytes
      change (tray.write bytes).1 = _ ∧ (tray.write bytes).2.held = _
      unfold Tray.write
      rw [roomy]
      exact ⟨rfl, rfl⟩
  | cons piece rest ih =>
      apply ih
      change (tray.write piece).2.room = none
      unfold Tray.write
      rw [roomy]

theorem Tray.accepts (tray : Tray) (roomy : tray.room = none) : Tray.sink.Accepts tray :=
  fun before bytes => (Tray.collects tray roomy before bytes).1

end SiteIndex
