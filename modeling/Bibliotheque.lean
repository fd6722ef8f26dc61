import Bibliotheque.Lib.Run
import Bibliotheque.Lib.Table
import Bibliotheque.Lib.Association
import Bibliotheque.Lib.GroupBy
import Bibliotheque.Lib.Network
import Bibliotheque.Php
import Bibliotheque.Schema
import Bibliotheque.Serialization
import Bibliotheque.Collections
import Bibliotheque.Fixtures
import Bibliotheque.Reservation
import Bibliotheque.Emprunt
import Bibliotheque.Operations
import Bibliotheque.Invariant.Reservations
import Bibliotheque.Invariant.Emprunts
import Bibliotheque.Lending.Creation
import Bibliotheque.Lending.Expiration
import Bibliotheque.Lending.Edition
import Bibliotheque.Lib.Interleave
import Bibliotheque.Concurrence.Machine
import Bibliotheque.Concurrence.Reservations
import Bibliotheque.Concurrence.Prets
import Bibliotheque.Security
import Bibliotheque.Recherche
import Bibliotheque.Api
import Bibliotheque.BackOffice
import Bibliotheque.Dashboard
import Bibliotheque.Lending.Equivalence
import Bibliotheque.Security.Integrity
import Bibliotheque.Security.Confidentiality
import Bibliotheque.Security.Tokens
import Bibliotheque.Security.Catalogue
import Bibliotheque.Security.Suspension
import Bibliotheque.Lib.Like
import Bibliotheque.Recherche.Selection
import Bibliotheque.Recherche.Texte
import Bibliotheque.Lib.Double
import Bibliotheque.Lib.JsString
import Bibliotheque.Lib.Base64
import Bibliotheque.Lib.Json
import Bibliotheque.Lib.Json.Text
import Bibliotheque.Lib.Json.Complete
import Bibliotheque.Lib.Json.Stringify
import Bibliotheque.Client.Token
import Bibliotheque.Client.AuthService
import Bibliotheque.Client.Session
import Bibliotheque.Client.Guard
import Bibliotheque.Client.Stockage
import Bibliotheque.Client.ApiService
import Bibliotheque.Client.LivresList
import Bibliotheque.Client.NbReservations
import Bibliotheque.Client.Reserver
import Bibliotheque.Client.LivreDetail
import Bibliotheque.Client.MesReservations
import Bibliotheque.Client.MonProfil
import Bibliotheque.Lib.Keys
import Bibliotheque.Lib.Simulation
import Bibliotheque.Circulation
import Bibliotheque.Systeme
import Bibliotheque.Systeme.References
import Bibliotheque.Systeme.Invariant
import Bibliotheque.Systeme.Circulation
import Bibliotheque.Systeme.Guichet
import Bibliotheque.Systeme.Comptes
import Bibliotheque.Lib.Relational
import Bibliotheque.Migration
import Bibliotheque.Systeme.Contraintes
