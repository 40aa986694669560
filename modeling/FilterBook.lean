import FilterBook.Http
import FilterBook.Log
import FilterBook.Main
import FilterBook.Proofs.Calendar
import FilterBook.Proofs.Conformance
import FilterBook.Proofs.Conversion
import FilterBook.Proofs.Denotation
import FilterBook.Proofs.Depth
import FilterBook.Proofs.Diagnosis
import FilterBook.Proofs.Figures
import FilterBook.Proofs.Inversion
import FilterBook.Proofs.Meaning
import FilterBook.Proofs.Readers
import FilterBook.Proofs.Records
import FilterBook.Proofs.Relevance
import FilterBook.Proofs.Renaming
import FilterBook.Proofs.Rereading
import FilterBook.Proofs.RoundTrip
import FilterBook.Proofs.Spelling
import FilterBook.Proofs.Stacking
import FilterBook.Proofs.Strays
import FilterBook.Proofs.Surfaces
import FilterBook.Proofs.Transparency
import FilterBook.Session
