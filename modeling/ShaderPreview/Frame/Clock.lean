/-!
# Frame Clocks

The time that a shader sees starts at zero with each program and never runs backwards, whatever the
readings of the clock are.

## Main definitions

* `FrameClock`: the time since a start, and the number of frames.
* `FrameClock.advance`: the next frame at a reading.
-/

namespace ShaderPreview

/-- The **time since a start**: when it was, how much time a shader has seen, and how many frames
there were. -/
structure FrameClock where
  start : Float
  elapsed : Float := 0.0
  frames : Nat := 0
  deriving DecidableEq, Repr

namespace FrameClock

/-- The later of two times. A reading that is not a number is later than nothing. -/
def later (a b : Float) : Float := if a < b then b else a

/-- The **next frame** at a reading: time goes on to the reading or stands still. -/
def advance (c : FrameClock) (reading : Float) : FrameClock :=
  { c with elapsed := later c.elapsed (reading - c.start), frames := c.frames + 1 }

end FrameClock

end ShaderPreview
