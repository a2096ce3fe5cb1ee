import CallAtlas.Text.Basic

/-!
# The host

What the program knows of itself and of the machine that it runs on.
-/

namespace CallAtlas

/-- The version of the program. -/
def version : String := "0.3.0"

/-- The machine that the program runs on. A job sees one moment of its clock. -/
structure Host where
  /-- The time, as a date and a time of day in the time zone of Greenwich. -/
  now : Text
  /-- The number of processors. -/
  processors : Nat
  /-- What identifies the running process. -/
  process : Text
  /-- The version of the runtime. -/
  runtime : Text
  /-- The operating system. -/
  platform : Text
  /-- The kind of the processors. -/
  architecture : Text
deriving Inhabited

namespace Host

/-- The number of files that are worked on at once, whatever the host. -/
def maxConcurrency : Nat := 32

/-- The number of files that are worked on at once: one for each processor but one. -/
def defaultConcurrency (h : Host) : Nat := max 1 (min (h.processors - 1) maxConcurrency)

end Host

end CallAtlas
