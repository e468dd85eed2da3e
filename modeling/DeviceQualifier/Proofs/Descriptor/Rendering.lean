import DeviceQualifier.Proofs.Config.Summary
import DeviceQualifier.Proofs.Wire.Describable
import DeviceQualifier.Proofs.Wire.Places
import DeviceQualifier.Vectors.Run
import Mathlib.Data.List.TFAE
import Mathlib.Tactic.TFAE

/-!
The renderings of a decoded configuration: its text, the digits of its record, and its changes by
name. Each of them tells decoded configurations apart, `renderings_tell`. The text does so because
nothing that a descriptor can say breaks a line, the record because it reads back.
-/
namespace DeviceQualifier

namespace Text.Hex

theorem renderUpper_injective : Function.Injective renderUpper := by
  intro xs ys same
  have read := congrArg readPairs (String.ofList_injective same)
  rw [readPairs_flatMap_pair, readPairs_flatMap_pair] at read
  exact Option.some.inj read

theorem length_renderUpper (bytes : List UInt8) :
    (renderUpper bytes).length = 2 * bytes.length := by
  rw [renderUpper, String.length_ofList, length_flatMap_pair]

theorem mem_digitsUpper : ∀ n < 16, digitsUpper.getD n '0' ∈ digitsUpper := by
  decide

theorem mem_renderUpper {bytes : List UInt8} {c : Char} (hc : c ∈ (renderUpper bytes).toList) :
    c ∈ digitsUpper := by
  rw [renderUpper, String.toList_ofList] at hc
  obtain ⟨b, -, hb⟩ := List.mem_flatMap.mp hc
  have bound : b.toNat < 256 := b.toNat_lt
  rw [pair, List.mem_pair] at hb
  rcases hb with rfl | rfl
  · exact mem_digitsUpper _ (by omega)
  · exact mem_digitsUpper _ (by omega)

end Text.Hex

namespace Wire

theorem length_of_write {r : Config} {bytes : List UInt8} (h : write r = .ok bytes) :
    bytes.length = 64 := by
  obtain ⟨l, hl, g, hg, s, hs, v, hv, fit, rfl⟩ := write_eq_ok_iff.mp h
  exact (laid_layout hl hg hs hv fit).length

/-- A record as text: two digits for each of its bytes. -/
structure Digits (r : Config) (hex : String) : Prop where
  written : writeHex r = .ok hex
  length : hex.length = 128
  digits : ∀ c ∈ hex.toList, c ∈ Text.Hex.digitsUpper

theorem digits_of_writeHex {r : Config} {hex : String} (h : writeHex r = .ok hex) :
    Digits r hex := by
  obtain ⟨bytes, written, rfl⟩ := writeHex_eq_ok_iff.mp h
  constructor
  · exact h
  · rw [Text.Hex.length_renderUpper, length_of_write written]
  · exact fun c hc => Text.Hex.mem_renderUpper hc

theorem exists_digits {r : Config} (h : r.Describable) : ∃ hex, Digits r hex :=
  (exists_writeHex h).imp fun _ => digits_of_writeHex

/-- Digits tell describable configurations apart, as their records are read back. -/
theorem eq_of_writeHex {r q : Config} {hex : String} (hr : r.Describable) (hq : q.Describable)
    (written : writeHex r = .ok hex) (written' : writeHex q = .ok hex) : r = q := by
  obtain ⟨xs, hxs, read⟩ := exists_write hr
  obtain ⟨ys, hys, read'⟩ := exists_write hq
  obtain ⟨_, hxs', rfl⟩ := writeHex_eq_ok_iff.mp written
  obtain ⟨_, hys', same⟩ := writeHex_eq_ok_iff.mp written'
  cases hxs.symm.trans hxs'
  cases hys.symm.trans hys'
  rw [Text.Hex.renderUpper_injective same, read] at read'
  exact Except.ok.inj read'

end Wire

/-- Nothing that tokens can say breaks a line. -/
theorem Config.Describable.legible {r : Config} (h : r.Describable) : r.Legible := by
  intro p s there broken
  rcases h.locale with unset | ⟨w, described⟩
  · rw [unset] at there
    cases p <;> cases there
  · rcases described.shown there '\n' broken with small | capital
    · cases small
    · cases capital

namespace Descriptor

/-- **What a rendering tells.** Two decoded configurations are the same as soon as their texts, the
digits of their records, or their changes by name are. The digits are there for both, always as
many, and the text has one line for each field that is specified. -/
theorem renderings_tell {d₁ d₂ : String} {r₁ r₂ : Config} (h₁ : decode d₁ = .ok r₁)
    (h₂ : decode d₂ = .ok r₂) :
    ∃ hex₁ hex₂, Wire.Digits r₁ hex₁ ∧ Wire.Digits r₂ hex₂ ∧
      [r₁ = r₂, r₁.summary = r₂.summary, hex₁ = hex₂,
        ∀ name, (Vectors.changedNames r₁).lookup name =
          (Vectors.changedNames r₂).lookup name].TFAE ∧
      Text.lines r₁.summary = r₁.summaryLines ∧
      ∀ r hex, Wire.writeHex r = .ok hex → Wire.Digits r hex := by
  have describable₁ := describable_of_decode h₁
  have describable₂ := describable_of_decode h₂
  obtain ⟨hex₁, digits₁⟩ := Wire.exists_digits describable₁
  obtain ⟨hex₂, digits₂⟩ := Wire.exists_digits describable₂
  refine ⟨hex₁, hex₂, digits₁, digits₂, ?_, Config.lines_summary describable₁.legible,
    fun _ _ => Wire.digits_of_writeHex⟩
  tfae_have 1 → 2 := fun same => same ▸ rfl
  tfae_have 1 → 3 := by
    rintro rfl
    exact Except.ok.inj (digits₁.written.symm.trans digits₂.written)
  tfae_have 1 → 4 := fun same => same ▸ fun _ => rfl
  tfae_have 2 → 1 := Config.summary_injective describable₁.legible describable₂.legible
  tfae_have 3 → 1 := by
    rintro rfl
    exact Wire.eq_of_writeHex describable₁ describable₂ digits₁.written digits₂.written
  tfae_have 4 → 1 := Config.eq_of_lookup_changes
  tfae_finish

/-- A script that one of two descriptors names is in each rendering. -/
theorem renderings_tell_script :
    ∃ r₁ r₂ hex₁ hex₂, decode "b+sr+RS-land" = .ok r₁ ∧ decode "b+sr+Latn+RS-land" = .ok r₂ ∧
      Wire.Digits r₁ hex₁ ∧ Wire.Digits r₂ hex₂ ∧ r₁ ≠ r₂ ∧ r₁.summary ≠ r₂.summary ∧
      hex₁ ≠ hex₂ ∧ (∃ name, (Vectors.changedNames r₁).lookup name ≠
        (Vectors.changedNames r₂).lookup name) ∧
      Text.lines r₁.summary = ["  language: sr", "  region: RS", "  orientation: 2"] := by
  obtain ⟨r₁, plain, unscripted, shown⟩ : ∃ r, decode "b+sr+RS-land" = .ok r ∧
      r.locale.script = none ∧
      r.summaryLines = ["  language: sr", "  region: RS", "  orientation: 2"] :=
    ⟨_, rfl, rfl, by decide⟩
  obtain ⟨r₂, latin, scripted⟩ : ∃ r, decode "b+sr+Latn+RS-land" = .ok r ∧
      r.locale.script = some "Latn" := ⟨_, rfl, rfl⟩
  obtain ⟨hex₁, hex₂, digits₁, digits₂, same, lines, -⟩ := renderings_tell plain latin
  have differ : r₁ ≠ r₂ := by
    rintro rfl
    cases unscripted.symm.trans scripted
  have names := mt (same.out 3 0).mp differ
  exact ⟨r₁, r₂, hex₁, hex₂, plain, latin, digits₁, digits₂, differ, mt (same.out 1 0).mp differ,
    mt (same.out 2 0).mp differ, not_forall.mp names, lines.trans shown⟩

end Descriptor
end DeviceQualifier
