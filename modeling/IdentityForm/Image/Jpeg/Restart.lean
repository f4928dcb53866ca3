import IdentityForm.Image.Jpeg.Layout

/-! # Restarts inside a scan

After every so many units a marker may stand at which reading starts afresh.
-/

namespace IdentityForm.Image.Jpeg

/-- Where reading a scan stands. -/
structure Cursor where
  header : Header
  bits : Bits

namespace Cursor

/-- One unit is done; a countdown that is over begins again far off. -/
def countDown (p : Cursor) : Cursor :=
  let left := if p.header.countdown = 0 then UInt64.size else p.header.countdown
  { p with header := { p.header with countdown := left - 1 } }

/-- The countdown begins again, and reading with it if a restart marker stands here; none at a
marker that does not belong into a scan. -/
def restart? (p : Cursor) : Option Cursor :=
  let header := { p.header with countdown := p.header.interval }
  match p.bits.marker with
  | none => some { p with header := header }
  | some marker =>
    if isRestart marker then some ⟨header, p.bits.restart⟩
    else if marker = endMarker then some { p with header := header }
    else none

/-- Where a restart is due, the next marker is looked for. -/
def restartIfDue? (bytes : ByteArray) (p : Cursor) : Option Cursor :=
  if p.header.countdown = 0 then do
    let bits ← p.bits.refill? bytes
    if p.header.interval ≠ 0 ∧ bits.marker = none then
      match nextMarker? bytes (bytes.size + 1) bits.pos with
      | some (marker, pos) =>
        restart? { p with bits := { bits with pos := pos, marker := some marker } }
      | none => restart? { p with bits := bits }
    else restart? { p with bits := bits }
  else some p

end Cursor

end IdentityForm.Image.Jpeg
