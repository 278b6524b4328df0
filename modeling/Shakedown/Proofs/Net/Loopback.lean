/-
  Shakedown.Proofs.Net.Loopback

  URLs of this machine.  The base of the address 127.0.0.1 and any port is
  bare and names just that host and port, so a plain path below it is read as
  it is written.
-/
import Shakedown.Proofs.Net.Base

namespace Shakedown

namespace Bind

/-- The address of a port of this machine. -/
def loopback (port : UInt16) : Bind := ⟨"127.0.0.1", port⟩

theorem bare_loopback (port : UInt16) : (loopback port).Bare := by
  have hall : ∀ c ∈ "127.0.0.1".toList, Net.SchemeKind.special.endsAuthority c = false :=
    List.all_iff_forall_prop.mp (by decide)
  exact hall

end Bind

namespace Net.Url

open Text

/-- The URL of a path of this machine. -/
def ofLoopback (port : UInt16) (path : List Char) : Url where
  scheme := "http".toList
  host := some (.v4 ⟨127, 0, 0, 1⟩)
  port := if port.toNat = 80 then none else some port.toNat
  path := .segments (segmentsOf path)

/-- Address and port as they are written. -/
theorem authorityOf_loopback (port : UInt16) :
    authorityOf (.loopback port) = "127.0.0.1".toList ++ ':' :: Decimal.digits port.toNat := by
  refine List.filter_eq_self.mpr fun c hc => ?_
  have hdigit : ∀ d, isKept d = false → Decimal.isDigit d = false := by
    intro d hd
    simp only [isKept, Bool.not_eq_false', Bool.or_eq_true, decide_eq_true_eq] at hd
    rcases hd with (rfl | rfl) | rfl <;> decide
  rcases List.mem_append.mp hc with hc | hc
  · have hall : ∀ d ∈ "127.0.0.1".toList, isKept d = true :=
      List.all_iff_forall_prop.mp (by decide)
    exact hall c hc
  · rcases List.mem_cons.mp hc with rfl | hc
    · decide
    · have hc := List.all_eq_true.mp (Decimal.all_isDigit_digits _) c hc
      by_contra hkept
      exact Bool.false_ne_true ((hdigit c (Bool.eq_false_iff.mpr hkept)).symm.trans hc)

theorem readAuthority?_loopback (port : UInt16) :
    readAuthority? { scheme := "http".toList } .special (authorityOf (.loopback port)) =
      some { ofLoopback port [] with path := .segments [] } := by
  rw [authorityOf_loopback]
  -- There is no user, so all of it is host and port.
  have hat : cutAtLast '@' ("127.0.0.1".toList ++ ':' :: Decimal.digits port.toNat) = none := by
    have hall : ∀ c ∈ ("127.0.0.1".toList ++ ':' :: Decimal.digits port.toNat).reverse,
        decide (c ≠ '@') = true := by
      intro c hc
      refine decide_eq_true ?_
      rintro rfl
      rcases List.mem_append.mp (List.mem_reverse.mp hc) with hc | hc
      · exact absurd hc (by decide)
      · rcases List.mem_cons.mp hc with hc | hc
        · exact absurd hc (by decide)
        · exact absurd (List.all_eq_true.mp (Decimal.all_isDigit_digits _) '@' hc) (by decide)
    have hnil : ("127.0.0.1".toList ++ ':' :: Decimal.digits port.toNat).reverse.dropWhile
        (fun c => decide (c ≠ '@')) = [] := List.dropWhile_eq_nil_iff.mpr hall
    unfold cutAtLast
    rw [hnil]
  have hhost : hostPart false ("127.0.0.1".toList ++ ':' :: Decimal.digits port.toNat) =
      "127.0.0.1".toList := rfl
  have hrest : ("127.0.0.1".toList ++ ':' :: Decimal.digits port.toNat).drop
      "127.0.0.1".toList.length = ':' :: Decimal.digits port.toNat := rfl
  have hdomain : Host.ofDomain? "127.0.0.1".toList = some (.v4 ⟨127, 0, 0, 1⟩) := by
    decide +kernel
  have hport : readPort? "http".toList (Decimal.digits port.toNat) =
      some (if port.toNat = 80 then none else some port.toNat) := by
    have hempty : (Decimal.digits port.toNat).isEmpty = false := by
      simpa using Decimal.digits_ne_nil port.toNat
    have hdefault : defaultPort? "http".toList = some 80 := by decide +kernel
    have hlt : port.toNat ≤ 65535 := Nat.le_of_lt_succ port.toNat_lt
    rw [readPort?, hempty, Decimal.all_isDigit_digits, Decimal.accumulate_digits, hdefault]
    rw [if_neg Bool.false_ne_true, if_pos rfl, if_pos hlt]
    simp only [Option.some.injEq, eq_comm]
  unfold readAuthority?
  rw [hat]
  dsimp only
  rw [hhost, hrest]
  rw [if_neg (by exact Bool.false_ne_true), if_neg (by exact Bool.false_ne_true), if_pos rfl,
    hdomain]
  show (readPort? "http".toList (Decimal.digits port.toNat)).bind _ = _
  rw [hport]
  rfl

/-- The base of this machine is read as it is meant. -/
theorem read?_loopback (port : UInt16) :
    Url.read? (Bind.loopback port).baseUrl = some (ofLoopback port []) := by
  rw [read?_baseUrl (Bind.bare_loopback port), readAuthority?_loopback]
  rfl

end Net.Url

end Shakedown
