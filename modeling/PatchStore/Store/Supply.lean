import PatchStore.Metadata.Basic

/-!
# Stamps for new versions

Every version of a stored document carries a stamp: an etag of its own and the time at which it was
made.  Stamps are drawn one after the other from a supply, which stands for whatever makes fresh
etags and for the clock.

* `Supply.Fresh` — the etags that are still to be drawn are all different.
-/

namespace PatchStore

open Time (Timestamp)

/-- The mark of a new version: a fresh etag and the time. -/
structure Stamp where
  etag : Etag
  modified : Timestamp
  deriving DecidableEq, Inhabited

/-- All stamps that can ever be drawn, and the number of those that have been. -/
structure Supply where
  stamp : Nat → Stamp
  drawn : Nat := 0
  deriving Inhabited

namespace Supply

/-- The stamp that is drawn next. -/
def next (s : Supply) : Stamp := s.stamp s.drawn

/-- The supply without the stamp that is drawn next. -/
def advance (s : Supply) : Supply := { s with drawn := s.drawn + 1 }

/-- No etag is drawn twice. -/
def Fresh (s : Supply) : Prop :=
  ∀ m n, s.drawn ≤ m → s.drawn ≤ n → (s.stamp m).etag = (s.stamp n).etag → m = n

@[simp] theorem stamp_advance (s : Supply) : s.advance.stamp = s.stamp := rfl

@[simp] theorem drawn_advance (s : Supply) : s.advance.drawn = s.drawn + 1 := rfl

end Supply

end PatchStore
