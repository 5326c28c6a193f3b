import FineTuning.Catalog.Basic
import FineTuning.Double.Decimal

/-!
# The built-in catalog

The models that are offered when no other catalog is given.
-/

namespace FineTuning.Catalog

/-- A count of tenths of a billion, as a number of billions. -/
def tenths (n : Nat) : Double :=
  Double.scaleByTen n (-1)

/-- The models that are offered by default. -/
def builtIn : Catalog where
  entries := [
    { id := "meta-llama/Llama-3.2-1B-Instruct"
      displayName := "Llama 3.2 1B Instruct"
      provider := "Meta"
      parameterCount := tenths 10
      family := "llama"
      aliases := ["llama 1b", "llama 3.2 1b", "llama-3.2-1b"] },
    { id := "meta-llama/Llama-3.2-3B-Instruct"
      displayName := "Llama 3.2 3B Instruct"
      provider := "Meta"
      parameterCount := tenths 30
      family := "llama"
      aliases := ["llama 3b", "llama 3.2 3b", "llama-3.2-3b", "llama 3.2"] },
    { id := "meta-llama/Llama-3.1-8B-Instruct"
      displayName := "Llama 3.1 8B Instruct"
      provider := "Meta"
      parameterCount := tenths 80
      family := "llama"
      aliases := ["llama 8b", "llama 3.1 8b", "llama-3.1-8b", "llama 3.1", "llama 3"] },
    { id := "microsoft/Phi-3-mini-4k-instruct"
      displayName := "Phi-3 Mini 4K Instruct"
      provider := "Microsoft"
      parameterCount := tenths 38
      family := "phi"
      aliases := ["phi3", "phi-3", "phi 3 mini", "phi3 mini"] },
    { id := "microsoft/Phi-3.5-mini-instruct"
      displayName := "Phi-3.5 Mini Instruct"
      provider := "Microsoft"
      parameterCount := tenths 38
      family := "phi"
      aliases := ["phi3.5", "phi-3.5", "phi 3.5 mini"] },
    { id := "Qwen/Qwen2.5-0.5B-Instruct"
      displayName := "Qwen 2.5 0.5B Instruct"
      provider := "Alibaba"
      parameterCount := tenths 5
      family := "qwen"
      aliases := ["qwen 0.5b", "qwen2.5 0.5b"] },
    { id := "Qwen/Qwen2.5-7B-Instruct"
      displayName := "Qwen 2.5 7B Instruct"
      provider := "Alibaba"
      parameterCount := tenths 70
      family := "qwen"
      aliases := ["qwen 7b", "qwen2.5 7b", "qwen2.5"] },
    { id := "google/gemma-2-2b-it"
      displayName := "Gemma 2 2B Instruct"
      provider := "Google"
      parameterCount := tenths 20
      family := "gemma"
      aliases := ["gemma 2b", "gemma2", "gemma 2"] },
    { id := "mistralai/Mistral-7B-Instruct-v0.3"
      displayName := "Mistral 7B Instruct"
      provider := "Mistral AI"
      parameterCount := tenths 70
      family := "mistral"
      aliases := ["mistral", "mistral 7b"] }]

end FineTuning.Catalog
