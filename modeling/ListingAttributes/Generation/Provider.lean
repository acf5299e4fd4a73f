/-!
# Providers

The three protocols that an adapter can speak, and what is fixed about each of them.
-/

namespace ListingAttributes.Generation

/-- A protocol for text generation. -/
inductive Provider where
  /-- A local generation server. -/
  | ollama
  /-- A messages service. -/
  | anthropic
  /-- A chat-completions service, or a server that speaks its protocol. -/
  | openAi
  deriving DecidableEq, Repr

namespace Provider

/-- The name of a provider. -/
def name : Provider → String
  | ollama => "ollama"
  | anthropic => "anthropic"
  | openAi => "openai"

/-- The provider with exactly this name; one has a second name. -/
def ofName? (text : String) : Option Provider :=
  if text = "ollama" then some ollama
  else if text = "anthropic" then some anthropic
  else if text = "openai" ∨ text = "openai-compatible" then some openAi
  else none

/-- The address that is used unless another is configured. -/
def defaultUrl : Provider → String
  | ollama => "http://localhost:11434"
  | anthropic => "https://api.anthropic.com"
  | openAi => "https://api.openai.com/v1"

/-- What a provider adds to the configured address. -/
def path : Provider → String
  | ollama => "/api/generate"
  | anthropic => "/v1/messages"
  | openAi => "/chat/completions"

/-- The environment variable that holds the key for a provider, if keys are in use. -/
def keyVariable? : Provider → Option String
  | ollama => none
  | anthropic => some "ANTHROPIC_API_KEY"
  | openAi => some "OPENAI_API_KEY"

end Provider

/-- The version of the messages protocol that is asked for unless another is configured. -/
def defaultMessagesVersion : String := "2023-06-01"

end ListingAttributes.Generation
