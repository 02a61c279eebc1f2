import UriTemplate.Catalogue
import UriTemplate.Datum.Building
import UriTemplate.Main
import UriTemplate.Proofs.Decoding
import UriTemplate.Proofs.Encoding
import UriTemplate.Proofs.Escaping
import UriTemplate.Proofs.Bindings
import UriTemplate.Proofs.WellFormed
import UriTemplate.Proofs.Boundary
import UriTemplate.Proofs.Expansion
import UriTemplate.Proofs.Capturing
import UriTemplate.Proofs.Passage
import UriTemplate.Proofs.Partition
import UriTemplate.Proofs.Recovery
import UriTemplate.Proofs.Items
import UriTemplate.Proofs.Naming
import UriTemplate.Proofs.NamedRoundTrip
import UriTemplate.Proofs.Remaking
import UriTemplate.Proofs.Reexpansion
import UriTemplate.Proofs.Alone
import UriTemplate.Proofs.NamedLanguage
import UriTemplate.Proofs.Positional
import UriTemplate.Proofs.Reserved
import UriTemplate.Proofs.Following
import UriTemplate.Proofs.Streaming
import UriTemplate.Proofs.PositionalLanguage
import UriTemplate.Proofs.Rematching
import UriTemplate.Proofs.Munch
import UriTemplate.Proofs.Grammar
import UriTemplate.Proofs.Respelling
import UriTemplate.Proofs.Concatenation
import UriTemplate.Proofs.Exploding
import UriTemplate.Proofs.Truncation
import UriTemplate.Proofs.Delimiters
import UriTemplate.Proofs.Overlay
import UriTemplate.Proofs.Findings
import UriTemplate.Proofs.Cutting
import UriTemplate.Proofs.Excess
import UriTemplate.Proofs.Refusal
import UriTemplate.Proofs.Locating
import UriTemplate.Proofs.Reporting
import UriTemplate.Proofs.Rewriting
import UriTemplate.Proofs.Ascii
import UriTemplate.Proofs.Collecting
import UriTemplate.Proofs.Scanning
import UriTemplate.Proofs.Separators
import UriTemplate.Proofs.Loading
