import ScopeGen.Json.Model
import ScopeGen.Json.Source
import ScopeGen.Presentation.File
import ScopeGen.Session
import ScopeGen.Proofs.Scope.ClassName
import ScopeGen.Proofs.Marker.Naming
import ScopeGen.Proofs.Marker.Canonical
import ScopeGen.Proofs.Marker.Classified
import ScopeGen.Proofs.Emission.Overrides
import ScopeGen.Proofs.Emission.Correlation
import ScopeGen.Proofs.Emission.Declared
import ScopeGen.Proofs.Emission.Locality
import ScopeGen.Proofs.Emission.Account
import ScopeGen.Proofs.Emission.Distribution
import ScopeGen.Proofs.Emission.Readings
import ScopeGen.Proofs.Emission.Recursion
import ScopeGen.Proofs.Emission.Growth
import ScopeGen.Proofs.Emission.Rewording
import ScopeGen.Proofs.Json.Lexemes
import ScopeGen.Proofs.Json.Building
import ScopeGen.Proofs.Json.Nesting
import ScopeGen.Proofs.Json.Compact
import ScopeGen.Proofs.Json.Spelling
import ScopeGen.Proofs.Json.Outlines
import ScopeGen.Proofs.Json.Reading
import ScopeGen.Proofs.Json.Record
import ScopeGen.Proofs.Json.Types
import ScopeGen.Proofs.Json.RoundTrip
import ScopeGen.Proofs.Json.Levels
import ScopeGen.Proofs.Json.Respelling
import ScopeGen.Proofs.Json.Hole
import ScopeGen.Proofs.Json.Results
import ScopeGen.Proofs.Json.Places
import ScopeGen.Proofs.Json.Checked
import ScopeGen.Proofs.Json.Whole
import ScopeGen.Proofs.Json.Agreement
import ScopeGen.Proofs.Json.Kinds
import ScopeGen.Proofs.Json.Faults
import ScopeGen.Proofs.Json.Innermost
