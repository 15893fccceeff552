import ShaderPreview.Proofs.Dialogue.Implemented
import ShaderPreview.Proofs.Gl.Obliging

/-!
# Driving a Device

What makes calls of a device is carried out on a context through that device. On a context that
obliges the two are followed together, step by step: a call is what the device makes of it, and
everything else leaves the device as it is.

## Main definitions

* `GlDevice.Drives`: where a procedure leads, with the device that it is carried out on.

## Main results

* `GlDevice.Drives.bind`, `GlDevice.Drives.handle`, `GlDevice.Drives.zoom`: procedures that are put
  together.
* `GlDevice.Drives.ask`: a call.
-/

namespace ShaderPreview.GlDevice

open Procedure Platform

variable {σ τ α β : Type} {w : Work} {s : σ} {d : GlDevice} {p : DeviceProcedure σ α}
  {ok : Work → α → σ → GlDevice → Prop} {err : Work → Fault → σ → GlDevice → Prop}

/-- Where a procedure leads on a platform that obliges, together with the device **that it is
carried out on**. -/
def Drives (w : Work) (s : σ) (d : GlDevice) (p : DeviceProcedure σ α)
    (ok : Work → α → σ → GlDevice → Prop) (err : Work → Fault → σ → GlDevice → Prop) : Prop :=
  Leads w (s, d) (p.implement perform) (fun w a both => ok w a both.1 both.2)
    fun w fault both => err w fault both.1 both.2

namespace Drives

/-- A result leads where it is given. -/
theorem pure {a : α} (h : ok w a s d) : Drives w s d (pure a) ok err := Leads.pure h

/-- A failure leads where it is raised. -/
theorem fail {fault : Fault} (h : err w fault s d) :
    Drives w s d (fail fault : DeviceProcedure σ α) ok err := Leads.fail h

/-- A change of the state leaves the device. -/
theorem update {ok : Work → Unit → σ → GlDevice → Prop} {f : σ → σ} (h : ok w () (f s) d) :
    Drives w s d (update f) ok err := Leads.update (f := fun both => (f both.1, both.2)) h

/-- A notice leaves the state and the device. -/
theorem tell {ok : Work → Unit → σ → GlDevice → Prop} {notice : Notice} (h : ok w () s d) :
    Drives w s d (tell notice) ok err := Leads.tell h

/-- To look at the state and go on leads where the rest leads. -/
theorem state_bind {f : σ → DeviceProcedure σ α} (h : Drives w s d (f s) ok err) :
    Drives w s d (state >>= f) ok err :=
  have hopen : (state >>= f).implement perform (s, d) = (f s).implement perform (s, d) := rfl
  Leads.congr hopen h

/-- **One procedure after another**. -/
theorem bind {f : α → DeviceProcedure σ β} {ok : Work → β → σ → GlDevice → Prop}
    (h : Drives w s d p (fun w a s d => Drives w s d (f a) ok err) err) :
    Drives w s d (p >>= f) ok err := by
  rw [Drives, implement_bind]
  exact Leads.bind h

/-- Going on **after a fault**. -/
theorem handle {recover : Fault → DeviceProcedure σ α}
    (h : Drives w s d p ok fun w fault s d => Drives w s d (recover fault) ok err) :
    Drives w s d (p.handle recover) ok err := by
  rw [Drives, implement_handle]
  exact Leads.handle h

/-- Work before a fault passes on. -/
theorem onFault {recovery : DeviceProcedure σ Unit}
    (h : Drives w s d p ok fun w fault s d =>
      Drives w s d recovery (fun w _ s d => err w fault s d) err) :
    Drives w s d (p.onFault recovery) ok err := by
  rw [Drives, implement_onFault]
  exact Leads.onFault h

/-- A procedure **on a part** of the state. -/
theorem zoom {get : σ → τ} {set : σ → τ → σ} {q : DeviceProcedure τ α}
    (h : Drives w (get s) d q (fun w a t d => ok w a (set s t) d)
      fun w fault t d => err w fault (set s t) d) :
    Drives w s d (q.zoom get set) ok err := by
  rw [Drives, implement_zoom]
  exact Leads.zoom h

/-- **A call** is what the device makes of it. -/
theorem ask {call : Device.Call} {ok : Work → Device.Reply call → σ → GlDevice → Prop}
    (h : Leads w d (perform call) (fun w a d => ok w a s d) fun w fault d => err w fault s d) :
    Drives w s d (Device.ask call) ok err := by
  rw [Drives, Device.ask, implement_perform]
  exact Leads.zoom h

/-- A result that may be a fault leads where the one it is leads. -/
theorem ofExcept {r : Except Fault α} (hok : ∀ a, r = .ok a → ok w a s d)
    (herr : ∀ fault, r = .error fault → err w fault s d) :
    Drives w s d (ofExcept r) ok err := by
  rcases r with fault | a
  · exact fail (herr fault rfl)
  · exact pure (hok a rfl)

/-- What is carried out on the device leads to the same. -/
theorem leads (h : Drives w s d p ok err) :
    Leads w (s, d) (p.implement perform) (fun w a both => ok w a both.1 both.2)
      fun w fault both => err w fault both.1 both.2 := h

end Drives

-- From here on procedures are followed by the rules alone, as they are on a platform.
attribute [irreducible] Drives

end ShaderPreview.GlDevice
