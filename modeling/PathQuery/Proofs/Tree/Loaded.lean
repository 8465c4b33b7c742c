import PathQuery.Load.Document
import PathQuery.Proofs.Document.ValueForest
import PathQuery.Proofs.Text.Outcome

set_option autoImplicit false

namespace PathQuery

namespace Loaded

variable {ε α : Type} {a : α} {context : String}

theorem ofExcept_eq_ok {cause : ε → LoadCause} {result : Except ε α} :
    ofExcept cause result = .ok a ↔ result = .ok a := by
  cases result <;> simp [ofExcept]

theorem within_eq_ok {result : Loaded α} : result.within context = .ok a ↔ result = .ok a := by
  cases result <;> simp [within]

end Loaded

namespace Tree

open Loaded

variable {t : Tree} {text path : String} {bytes : List UInt8}

theorem exists_value_of_ofJson (loaded : ofJson text = .ok t) : ∃ v, t = ofValue v := by
  rw [ofJson, within_eq_ok, ofExcept_eq_ok] at loaded
  obtain ⟨v, _, rfl⟩ := map_eq_ok.mp loaded
  exact ⟨v, rfl⟩

theorem exists_value_of_ofYaml (loaded : ofYaml text = .ok t) : ∃ v, t = ofValue v := by
  rw [ofYaml, within_eq_ok, ofExcept_eq_ok] at loaded
  obtain ⟨v, _, rfl⟩ := map_eq_ok.mp loaded
  exact ⟨v, rfl⟩

theorem exists_value_of_ofInput (loaded : ofInput bytes = .ok t) : ∃ v, t = ofValue v := by
  rw [ofInput, within_eq_ok, ofBytes] at loaded
  obtain ⟨text, _, loaded⟩ := bind_eq_ok.mp loaded
  cases json : ofJson text with
  | ok t' =>
    rw [json] at loaded
    obtain rfl : t' = t := Except.ok.inj loaded
    exact exists_value_of_ofJson json
  | error e =>
    rw [json] at loaded
    exact exists_value_of_ofYaml (within_eq_ok.mp loaded)

theorem exists_value_of_ofFile {fs : Files} (loaded : ofFile fs path = .ok t) :
    ∃ v, t = ofValue v := by
  obtain ⟨text, _, loaded⟩ := bind_eq_ok.mp loaded
  rw [within_eq_ok] at loaded
  by_cases json : isJsonName path = true
  · rw [if_pos json] at loaded
    exact exists_value_of_ofJson loaded
  · rw [if_neg json] at loaded
    exact exists_value_of_ofYaml loaded

end Tree

end PathQuery
